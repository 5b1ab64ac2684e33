import RcProtocol.Library.Header

/-!
What `httputil.ReverseProxy` of Go does to the header of a request it passes on: the
fields about one connection go, whether they are known to be or the client names them,
and the address of the client is added.
-/

namespace RcProtocol.Library

def hopHeaders : List String :=
  ["Connection", "Proxy-Connection", "Keep-Alive", "Proxy-Authenticate", "Proxy-Authorization",
    "Te", "Trailer", "Transfer-Encoding", "Upgrade"]

def isAsciiSpace (c : Char) : Bool := c = ' ' || c = '\t' || c = '\n' || c = '\r'

/-- `textproto.TrimString`. -/
def trimString (cs : List Char) : List Char :=
  ((cs.dropWhile isAsciiSpace).reverse.dropWhile isAsciiSpace).reverse

namespace Header
variable (h : Header) (name token : String)

/-- The items of the comma-separated lists under a name. -/
def listed : List String :=
  (h.values name).flatMap fun value =>
    ((value.toList.splitOn ',').map trimString).map String.ofList

/-- `httpguts.HeaderValuesContainsToken`. -/
def containsToken : Bool :=
  (h.listed name).any fun item => item.toList.map Char.toLower = token.toList.map Char.toLower

def removeHopByHopHeaders : Header :=
  hopHeaders.foldl del (((h.listed "Connection").filter (· ≠ "")).foldl del h)

/-- The protocol the client asks to switch to. -/
def upgradeType : String := if h.containsToken "Connection" "Upgrade" then h.get "Upgrade" else ""

/-- The header as it is passed on for a client at the address, if that can be read. -/
def passedOn (clientIP : Option String) : Header :=
  let out := h.removeHopByHopHeaders
  let out := if h.containsToken "Te" "trailers" then out.set "Te" "trailers" else out
  let out := if h.upgradeType ≠ "" then
      (out.set "Connection" "Upgrade").set "Upgrade" h.upgradeType
    else out
  match clientIP with
  | none => out
  | some clientIP =>
      out.set "X-Forwarded-For" (", ".intercalate (out.values "X-Forwarded-For" ++ [clientIP]))

variable {h name}

theorem values_removeHopByHopHeaders :
    h.removeHopByHopHeaders.values name ⊆ h.values name := by
  intro value hvalue
  rw [removeHopByHopHeaders, values_dels] at hvalue
  split at hvalue
  · exact absurd hvalue List.not_mem_nil
  rw [values_dels] at hvalue
  split at hvalue
  · exact absurd hvalue List.not_mem_nil
  exact hvalue

theorem values_passedOn_eq {clientIP : Option String}
    (hname : ∀ n ∈ ["Te", "Connection", "Upgrade", "X-Forwarded-For"],
      canonicalName n ≠ canonicalName name) :
    (h.passedOn clientIP).values name = h.removeHopByHopHeaders.values name := by
  have hprotocol : (if h.upgradeType ≠ "" then
      ((if h.containsToken "Te" "trailers" then h.removeHopByHopHeaders.set "Te" "trailers"
        else h.removeHopByHopHeaders).set "Connection" "Upgrade").set "Upgrade" h.upgradeType
      else if h.containsToken "Te" "trailers" then h.removeHopByHopHeaders.set "Te" "trailers"
        else h.removeHopByHopHeaders).values name = h.removeHopByHopHeaders.values name := by
    split
    · rw [values_set_other (hname _ (by simp)), values_set_other (hname _ (by simp)),
        values_ite_set_other (hname _ (by simp))]
    · rw [values_ite_set_other (hname _ (by simp))]
  cases clientIP with
  | none =>
      simp only [passedOn]
      exact hprotocol
  | some clientIP =>
      simp only [passedOn]
      rw [values_set_other (hname _ (by simp)), hprotocol]

/-- Under every other name the upstream finds nothing that was not there. -/
theorem values_passedOn {clientIP : Option String}
    (hname : ∀ n ∈ ["Te", "Connection", "Upgrade", "X-Forwarded-For"],
      canonicalName n ≠ canonicalName name) :
    (h.passedOn clientIP).values name ⊆ h.values name := by
  rw [values_passedOn_eq hname]
  exact values_removeHopByHopHeaders

/-- The client lists the field among those of its connection. -/
def Named (h : Header) (name : String) : Prop :=
  canonicalName name ∈ ((h.listed "Connection").filter (· ≠ "")).map canonicalName

instance (h : Header) (name : String) : Decidable (h.Named name) :=
  inferInstanceAs (Decidable (_ ∈ _))

/-- A field that is of no connection reaches the upstream as it is, unless the client has
listed it among those of its own. -/
theorem values_passedOn_named {clientIP : Option String}
    (hname : ∀ n ∈ "X-Forwarded-For" :: hopHeaders, canonicalName n ≠ canonicalName name) :
    (h.passedOn clientIP).values name = if h.Named name then [] else h.values name := by
  have hhop : canonicalName name ∉ hopHeaders.map canonicalName := by
    intro hmem
    obtain ⟨n, hn, hsame⟩ := List.mem_map.mp hmem
    exact hname n (List.mem_cons_of_mem _ hn) hsame
  rw [values_passedOn_eq, removeHopByHopHeaders, values_dels, if_neg hhop, values_dels]
  · rfl
  · intro n hn
    apply hname
    simp only [List.mem_cons, List.not_mem_nil, or_false] at hn
    obtain rfl | rfl | rfl | rfl := hn <;> simp [hopHeaders]

end Header

end RcProtocol.Library
