import RcProtocol.Library.JsonStrings
import RcProtocol.Library.Postgres

/-!
The compact text of a JSON value determines the value. Values are read off the front of
a text: what follows one is the end of the text, or a mark no number goes on with.
-/

namespace RcProtocol.Library
namespace Json

/-- What may follow a value. -/
def Ends (cs : List Char) : Prop := ∀ c ∈ cs.head?, c = ',' ∨ c = ']' ∨ c = '\x7d'

theorem ends_cons {c : Char} (hc : c = ',' ∨ c = ']' ∨ c = '\x7d') (cs : List Char) :
    Ends (c :: cs) := by
  intro d hd
  cases hd
  exact hc

theorem Ends.not_isDigit {cs : List Char} (h : Ends cs) : ∀ c ∈ cs.head?, c.isDigit = false := by
  intro c hc
  obtain rfl | rfl | rfl := h c hc
  · decide
  · decide
  · decide

/-- The first character of the values of one kind, the digits and the minus sign taken
together, and so the two truth values. -/
def kindOf (c : Char) : Char :=
  if c = '-' ∨ c.isDigit = true then '0' else if c = 'f' then 't' else c

def kind : Json → Char
  | null => 'n'
  | bool _ => 't'
  | num _ => '0'
  | str _ => '"'
  | arr _ => '['
  | obj _ => '\x7b'

theorem render_cons (j : Json) : ∃ c cs, j.render.toList = c :: cs ∧ kindOf c = j.kind := by
  cases j with
  | null => exact ⟨'n', ['u', 'l', 'l'], by rw [render]; rfl, rfl⟩
  | bool b =>
      cases b with
      | false => exact ⟨'f', ['a', 'l', 's', 'e'], by rw [render]; rfl, rfl⟩
      | true => exact ⟨'t', ['r', 'u', 'e'], by rw [render]; rfl, rfl⟩
  | num n =>
      obtain ⟨c, cs, hcs, hc⟩ := TextArray.toString_int_cons n
      exact ⟨c, cs, by rw [render, hcs], if_pos hc⟩
  | str s => exact ⟨'"', _, by rw [render, quote, String.toList_append, String.toList_append]; rfl, rfl⟩
  | arr items => exact ⟨'[', _, by rw [render, String.toList_append, String.toList_append]; rfl, rfl⟩
  | obj members =>
      exact ⟨'\x7b', _, by rw [render, String.toList_append, String.toList_append]; rfl, rfl⟩

theorem kind_eq_of_render {j j' : Json} {a b : List Char}
    (h : j.render.toList ++ a = j'.render.toList ++ b) : j.kind = j'.kind := by
  obtain ⟨c, cs, hcs, hc⟩ := render_cons j
  obtain ⟨c', cs', hcs', hc'⟩ := render_cons j'
  rw [hcs, hcs'] at h
  rw [← hc, ← hc', (List.cons.inj h).1]

/-- No value begins with a closing bracket. -/
theorem render_ne_bracket (j : Json) (a b : List Char) : j.render.toList ++ a ≠ ']' :: b := by
  intro h
  obtain ⟨c, cs, hcs, hc⟩ := render_cons j
  rw [hcs] at h
  rw [(List.cons.inj h).1, show kindOf ']' = ']' from rfl] at hc
  cases j <;> exact absurd (Char.val_inj.mpr hc) (by simp [kind])

theorem quote_append_inj {s t : String} {a b : List Char} :
    (quote s).toList ++ a = (quote t).toList ++ b ↔ s = t ∧ a = b := by
  constructor
  · intro h
    have hread := congrArg JsonStrings.parseItem h
    rw [JsonStrings.parseItem_quote, JsonStrings.parseItem_quote] at hread
    exact Prod.ext_iff.mp (Option.some.inj hread)
  · rintro ⟨rfl, rfl⟩
    rfl

theorem quote_cons (s : String) : ∃ cs, (quote s).toList = '"' :: cs :=
  ⟨_, by rw [quote, String.toList_append, String.toList_append]; rfl⟩

/-- Two texts of digits, each followed by no digit. -/
theorem digits_append_inj {d d' a b : List Char} (hd : ∀ c ∈ d, c.isDigit = true)
    (hd' : ∀ c ∈ d', c.isDigit = true) (ha : ∀ c ∈ a.head?, c.isDigit = false)
    (hb : ∀ c ∈ b.head?, c.isDigit = false) (h : d ++ a = d' ++ b) : d = d' ∧ a = b := by
  induction d generalizing d' with
  | nil =>
      cases d' with
      | nil => exact ⟨rfl, h⟩
      | cons c d' =>
          have hc := hd' c (.head _)
          rw [ha c (by rw [show a = c :: (d' ++ b) from h]; rfl)] at hc
          cases hc
  | cons c d ih =>
      cases d' with
      | nil =>
          have hc := hd c (.head _)
          rw [hb c (by rw [show b = c :: (d ++ a) from h.symm]; rfl)] at hc
          cases hc
      | cons c' d' =>
          obtain ⟨rfl, htail⟩ := List.cons.inj h
          obtain ⟨rfl, hrest⟩ :=
            ih (fun c h => hd c (.tail _ h)) (fun c h => hd' c (.tail _ h)) htail
          exact ⟨rfl, hrest⟩

theorem repr_append_inj {n m : Nat} {a b : List Char} (ha : ∀ c ∈ a.head?, c.isDigit = false)
    (hb : ∀ c ∈ b.head?, c.isDigit = false) (h : n.repr.toList ++ a = m.repr.toList ++ b) :
    n = m ∧ a = b := by
  have hdigits : ∀ n : Nat, ∀ c ∈ n.repr.toList, c.isDigit = true := by
    intro n c hc
    rw [Nat.toList_repr] at hc
    exact Nat.isDigit_of_mem_toDigits (by decide) (by decide) hc
  obtain ⟨hrepr, hrest⟩ := digits_append_inj (hdigits n) (hdigits m) ha hb h
  have hread := congrArg (Nat.ofDigitChars 10 · 0) hrepr
  simp only [Nat.toList_repr, Nat.ofDigitChars_ten_toDigits] at hread
  exact ⟨hread, hrest⟩

theorem int_append_inj {n m : Int} {a b : List Char} (ha : ∀ c ∈ a.head?, c.isDigit = false)
    (hb : ∀ c ∈ b.head?, c.isDigit = false)
    (h : (toString n).toList ++ a = (toString m).toList ++ b) : n = m ∧ a = b := by
  have hminus : ∀ k : Nat, (toString (Int.negSucc k)).toList = '-' :: k.succ.repr.toList := by
    intro k
    show ("-" ++ k.succ.repr).toList = _
    rw [String.toList_append]
    rfl
  have hplus : ∀ k : Nat, (toString (Int.ofNat k)).toList = k.repr.toList := fun _ => rfl
  have hne : ∀ (k : Nat) (a b : List Char), k.repr.toList ++ a ≠ '-' :: b := by
    intro k a b h
    have hlength := Nat.length_repr_pos (n := k)
    cases hk : k.repr.toList with
    | nil =>
        rw [← String.length_toList, hk] at hlength
        cases hlength
    | cons c cs =>
        rw [hk] at h
        have hc : c.isDigit = true := by
          apply Nat.isDigit_of_mem_toDigits (b := 10) (n := k) (by decide) (by decide)
          rw [← Nat.toList_repr, hk]
          exact .head _
        rw [(List.cons.inj h).1] at hc
        cases hc
  cases n with
  | ofNat k =>
      cases m with
      | ofNat l =>
          obtain ⟨rfl, hrest⟩ := repr_append_inj ha hb h
          exact ⟨rfl, hrest⟩
      | negSucc l =>
          rw [hplus, hminus] at h
          exact absurd h (hne _ _ _)
  | negSucc k =>
      cases m with
      | ofNat l =>
          rw [hplus, hminus] at h
          exact absurd h.symm (hne _ _ _)
      | negSucc l =>
          rw [hminus, hminus] at h
          obtain ⟨heq, hrest⟩ := repr_append_inj ha hb (List.cons.inj h).2
          exact ⟨by rw [Nat.succ.inj heq], hrest⟩

/-- The items after the first one, each with the comma before it. -/
def itemsTail : List Json → List Char
  | [] => []
  | item :: items => ',' :: (item.render.toList ++ itemsTail items)

def membersTail : List (String × Json) → List Char
  | [] => []
  | (name, value) :: members =>
      ',' :: ((quote name).toList ++ ':' :: (value.render.toList ++ membersTail members))

theorem toList_intercalate_cons (s : String) (ss : List String) :
    (",".intercalate (s :: ss)).toList = s.toList ++ ss.flatMap fun t => ',' :: t.toList := by
  induction ss generalizing s with
  | nil => simp
  | cons t ss ih =>
      have ih := ih t
      simp only [String.toList_intercalate, List.map_cons, List.intercalate_cons_cons,
        List.flatMap_cons] at ih ⊢
      rw [ih]
      simp

theorem flatMap_renderItems (items : List Json) :
    ((renderItems items).flatMap fun t => ',' :: t.toList) = itemsTail items := by
  induction items with
  | nil => rfl
  | cons item items ih => rw [renderItems, List.flatMap_cons, ih, itemsTail, List.cons_append]

theorem flatMap_renderMembers (members : List (String × Json)) :
    ((renderMembers members).flatMap fun t => ',' :: t.toList) = membersTail members := by
  induction members with
  | nil => rfl
  | cons member members ih =>
      rw [renderMembers, List.flatMap_cons, ih, membersTail]
      simp

theorem render_arr_nil : (arr []).render.toList = ['[', ']'] := by
  rw [render]
  rfl

theorem render_obj_nil : (obj []).render.toList = ['\x7b', '\x7d'] := by
  rw [render]
  rfl

theorem render_arr_cons (item : Json) (items : List Json) :
    (arr (item :: items)).render.toList =
      '[' :: (item.render.toList ++ (itemsTail items ++ [']'])) := by
  rw [render, renderItems, String.toList_append, String.toList_append, toList_intercalate_cons,
    flatMap_renderItems]
  simp

theorem render_obj_cons (name : String) (value : Json) (members : List (String × Json)) :
    (obj ((name, value) :: members)).render.toList =
      '\x7b' :: ((quote name).toList ++ ':' :: (value.render.toList ++
        (membersTail members ++ ['\x7d']))) := by
  rw [render, renderMembers, String.toList_append, String.toList_append, toList_intercalate_cons,
    flatMap_renderMembers]
  simp

theorem ends_itemsTail (items : List Json)
    (a : List Char) : Ends (itemsTail items ++ ']' :: a) := by
  cases items with
  | nil => exact ends_cons (.inr (.inl rfl)) a
  | cons item items => exact ends_cons (.inl rfl) _

theorem ends_membersTail (members : List (String × Json)) (a : List Char) :
    Ends (membersTail members ++ '\x7d' :: a) := by
  cases members with
  | nil => exact ends_cons (.inr (.inr rfl)) a
  | cons member members => exact ends_cons (.inl rfl) _

mutual

theorem render_append_inj : ∀ {j j' : Json} {a b : List Char}, Ends a → Ends b →
    j.render.toList ++ a = j'.render.toList ++ b → j = j' ∧ a = b
  | .null, j', a, b, _, _, h => by
      cases j' with
      | null => exact ⟨rfl, List.append_cancel_left h⟩
      | _ => exact absurd (kind_eq_of_render h) (by simp [kind])
  | .bool v, j', a, b, _, _, h => by
      cases j' with
      | bool v' => cases v <;> cases v' <;> simp_all [render]
      | _ => exact absurd (kind_eq_of_render h) (by simp [kind])
  | .num n, j', a, b, ha, hb, h => by
      cases j' with
      | num m =>
          rw [render, render] at h
          obtain ⟨rfl, hrest⟩ := int_append_inj ha.not_isDigit hb.not_isDigit h
          exact ⟨rfl, hrest⟩
      | _ => exact absurd (kind_eq_of_render h) (by simp [kind])
  | .str s, j', a, b, _, _, h => by
      cases j' with
      | str t =>
          rw [render, render] at h
          obtain ⟨rfl, hrest⟩ := quote_append_inj.mp h
          exact ⟨rfl, hrest⟩
      | _ => exact absurd (kind_eq_of_render h) (by simp [kind])
  | .arr items, j', a, b, _, _, h => by
      cases j' with
      | arr items' =>
          cases items with
          | nil =>
              cases items' with
              | nil => exact ⟨rfl, List.append_cancel_left h⟩
              | cons item' items' =>
                  rw [render_arr_nil, render_arr_cons] at h
                  simp only [List.cons_append, List.append_assoc, List.cons.injEq, true_and] at h
                  exact absurd h.symm (render_ne_bracket item' _ _)
          | cons item items =>
              rw [render_arr_cons] at h
              cases items' with
              | nil =>
                  rw [render_arr_nil] at h
                  simp only [List.cons_append, List.append_assoc, List.cons.injEq, true_and] at h
                  exact absurd h (render_ne_bracket item _ _)
              | cons item' items' =>
                  rw [render_arr_cons] at h
                  simp only [List.cons_append, List.append_assoc, List.cons.injEq, true_and,
                    List.nil_append] at h
                  obtain ⟨rfl, hitems⟩ :=
                    render_append_inj (ends_itemsTail _ _) (ends_itemsTail _ _) h
                  obtain ⟨rfl, hrest⟩ := itemsTail_append_inj hitems
                  exact ⟨rfl, hrest⟩
      | _ => exact absurd (kind_eq_of_render h) (by simp [kind])
  | .obj members, j', a, b, _, _, h => by
      cases j' with
      | obj members' =>
          cases members with
          | nil =>
              cases members' with
              | nil => exact ⟨rfl, List.append_cancel_left h⟩
              | cons member' members' =>
                  obtain ⟨cs, hcs⟩ := quote_cons member'.1
                  rw [render_obj_nil, render_obj_cons, hcs] at h
                  exact absurd (List.cons.inj (List.cons.inj h).2).1 (by decide)
          | cons member members =>
              obtain ⟨name, value⟩ := member
              rw [render_obj_cons] at h
              cases members' with
              | nil =>
                  obtain ⟨cs, hcs⟩ := quote_cons name
                  rw [render_obj_nil, hcs] at h
                  exact absurd (List.cons.inj (List.cons.inj h).2).1 (by decide)
              | cons member' members' =>
                  obtain ⟨name', value'⟩ := member'
                  rw [render_obj_cons] at h
                  simp only [List.cons_append, List.append_assoc, List.cons.injEq, true_and,
                    List.nil_append] at h
                  obtain ⟨rfl, htail⟩ := quote_append_inj.mp h
                  obtain ⟨rfl, hmembers⟩ := render_append_inj (ends_membersTail _ _)
                    (ends_membersTail _ _) (List.cons.inj htail).2
                  obtain ⟨rfl, hrest⟩ := membersTail_append_inj hmembers
                  exact ⟨rfl, hrest⟩
      | _ => exact absurd (kind_eq_of_render h) (by simp [kind])

theorem itemsTail_append_inj : ∀ {items items' : List Json} {a b : List Char},
    itemsTail items ++ ']' :: a = itemsTail items' ++ ']' :: b → items = items' ∧ a = b
  | [], [], _, _, h => ⟨rfl, (List.cons.inj h).2⟩
  | [], _ :: _, _, _, h => absurd (List.cons.inj h).1 (by decide)
  | _ :: _, [], _, _, h => absurd (List.cons.inj h).1 (by decide)
  | item :: items, item' :: items', a, b, h => by
      simp only [itemsTail, List.cons_append, List.append_assoc, List.cons.injEq, true_and] at h
      obtain ⟨rfl, hitems⟩ := render_append_inj (ends_itemsTail _ _) (ends_itemsTail _ _) h
      obtain ⟨rfl, hrest⟩ := itemsTail_append_inj hitems
      exact ⟨rfl, hrest⟩

theorem membersTail_append_inj : ∀ {members members' : List (String × Json)} {a b : List Char},
    membersTail members ++ '\x7d' :: a = membersTail members' ++ '\x7d' :: b →
      members = members' ∧ a = b
  | [], [], _, _, h => ⟨rfl, (List.cons.inj h).2⟩
  | [], _ :: _, _, _, h => absurd (List.cons.inj h).1 (by decide)
  | _ :: _, [], _, _, h => absurd (List.cons.inj h).1 (by decide)
  | (name, value) :: members, (name', value') :: members', a, b, h => by
      simp only [membersTail, List.cons_append, List.append_assoc, List.cons.injEq, true_and] at h
      obtain ⟨rfl, htail⟩ := quote_append_inj.mp h
      obtain ⟨rfl, hmembers⟩ := render_append_inj (ends_membersTail _ _) (ends_membersTail _ _)
        (List.cons.inj htail).2
      obtain ⟨rfl, hrest⟩ := membersTail_append_inj hmembers
      exact ⟨rfl, hrest⟩

end

theorem render_injective : Function.Injective render := by
  intro j j' h
  have hends : Ends [] := fun _ hc => nomatch hc
  exact (render_append_inj (a := []) (b := []) hends hends (by rw [h])).1

/-- Values that are signed or hashed under the same bytes are the same. -/
theorem toBytes_injective : Function.Injective toBytes := fun _ _ h =>
  render_injective (utf8_injective h)

end Json
end RcProtocol.Library
