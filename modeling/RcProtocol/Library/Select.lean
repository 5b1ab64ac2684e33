import RcProtocol.Library.Ties

/-!
`SELECT` statements with numbered arguments, `ORDER BY`, `LIMIT` and `OFFSET`, and the lists
that are read with them page by page.
-/

namespace RcProtocol.Library

inductive Arg where
  | text (s : String)
  | int (n : Int)

/-- The argument `$number`. -/
def argument (args : List Arg) : Nat → Option Arg
  | 0 => none
  | n + 1 => args[n]?

/-- The conditions joined by `AND`. A condition is met where one of its columns equals the
argument of its number. -/
abbrev Conditions (C : Type) := List (List (C × Nat))

structure Select (C : Type) where
  conditions : Conditions C
  limit : Nat
  offset : Nat

section Tests
variable {ρ : Type}

def orTest (p q : Option (ρ → Bool)) : Option (ρ → Bool) :=
  p.bind fun p => q.map fun q r => p r || q r

def andTest (p q : Option (ρ → Bool)) : Option (ρ → Bool) :=
  p.bind fun p => q.map fun q r => p r && q r

variable {p q t : Option (ρ → Bool)}

@[simp] theorem orTest_false : orTest p (some fun _ => false) = p := by
  cases p <;> simp [orTest]

@[simp] theorem andTest_true : andTest p (some fun _ => true) = p := by
  cases p <;> simp [andTest]

@[simp] theorem true_andTest : andTest (some fun _ => true) p = p := by
  cases p <;> simp [andTest]

theorem andTest_assoc : andTest (andTest p q) t = andTest p (andTest q t) := by
  cases p <;> cases q <;> cases t <;> simp [andTest, Bool.and_assoc]

end Tests

section Meaning
variable {C ρ τ : Type} [LinearOrder τ] (equals : C → String → Option (ρ → Bool)) (args : List Arg)

/-- None where the argument is missing or is no value of the column. -/
def columnTest (c : C × Nat) : Option (ρ → Bool) :=
  match argument args c.2 with
  | some (.text s) => equals c.1 s
  | _ => none

def conditionTest : List (C × Nat) → Option (ρ → Bool)
  | [] => some fun _ => false
  | c :: cs => orTest (columnTest equals args c) (conditionTest cs)

def whereTest : Conditions C → Option (ρ → Bool)
  | [] => some fun _ => true
  | c :: cs => andTest (conditionTest equals args c) (whereTest cs)

/-- `SELECT COUNT(*)`; none where the statement is refused. -/
def selectCount (conditions : Conditions C) (rows : List ρ) : Option Nat :=
  (whereTest equals args conditions).map fun p => (rows.filter p).length

/-- `SELECT … ORDER BY key DESC LIMIT … OFFSET …`, on the rows in the order in which they are
found. -/
def Select.run (select : Select C) (key : ρ → τ) (found : List ρ) : Option (List ρ) :=
  match whereTest equals args select.conditions, argument args select.limit,
      argument args select.offset with
  | some p, some (.int limit), some (.int offset) =>
      if limit < 0 ∨ offset < 0 then none
      else some (slice limit.toNat offset.toNat (orderByDesc key (found.filter p)))
  | _, _, _ => none

variable {equals args}

theorem argument_next {a : Arg} {rest : List Arg} :
    argument (args ++ a :: rest) (args.length + 1) = some a := by
  rw [argument, List.getElem?_append_right (Nat.le_refl _), Nat.sub_self, List.getElem?_cons_zero]

theorem whereTest_append {conditions more : Conditions C} :
    whereTest equals args (conditions ++ more) =
      andTest (whereTest equals args conditions) (whereTest equals args more) := by
  induction conditions with
  | nil => rw [List.nil_append, whereTest, true_andTest]
  | cons c cs ih => rw [List.cons_append, whereTest, whereTest, ih, andTest_assoc]

end Meaning

section Lists
variable {ρ τ κ : Type} [LinearOrder τ] {key : ρ → τ} {rows : List ρ} {p : ρ → Bool} {id : ρ → κ}
  {size n : Nat}

/-- The first pages answer, with the number of the keys, and have each key once, whatever
order the rows are found in for each of them. -/
def ListsOnce (page : Nat → List ρ → Option (List κ × Nat)) (rows : List ρ) (keys : List κ)
    (n : Nat) : Prop :=
  ∀ found : Nat → List ρ, (∀ i, (found i).Perm rows) →
    ∃ pages : Nat → List κ, (∀ i < n, page i (found i) = some (pages i, keys.length)) ∧
      ((List.range n).flatMap pages).Perm keys

/-- Every order that `ORDER BY` permits is that of some order in which rows are found. -/
theorem found_of_order {order : List ρ} (hperm : order.Perm (rows.filter p))
    (hsorted : SortedBy key order) :
    (order ++ rows.filter fun r => !p r).Perm rows ∧
      orderByDesc key ((order ++ rows.filter fun r => !p r).filter p) = order := by
  constructor
  · exact (hperm.append_right _).trans (List.filter_append_perm p rows)
  · have hall : order.filter p = order := by
      rw [List.filter_eq_self]
      intro r hr
      exact (List.mem_filter.mp (hperm.mem_iff.mp hr)).2
    have hnone : (rows.filter fun r => !p r).filter p = [] := by
      rw [List.filter_filter, List.filter_eq_nil_iff]
      simp
    rw [List.filter_append, hall, hnone, List.append_nil, orderByDesc_of_sortedBy hsorted]

/-- A list whose pages are those of its statement is complete and without repetition exactly
where no page ends among rows of one key. -/
theorem listsOnce_iff {page : Nat → List ρ → Option (List κ × Nat)}
    (hid : ((rows.filter p).map id).Nodup) (hcover : (rows.filter p).length ≤ n * size)
    (hpage : ∀ i < n, ∀ found : List ρ, found.Perm rows → page i found =
      some ((slice size (i * size) (orderByDesc key (found.filter p))).map id,
        (rows.filter p).length)) :
    ListsOnce page rows ((rows.filter p).map id) n ↔
      ∀ i, ¬Splits key (rows.filter p) (i * size) := by
  rw [← pages_perm_iff hid hcover]
  constructor
  · intro h orders hperm hsorted
    have hfound (i : Nat) := found_of_order (hperm i) (hsorted i)
    obtain ⟨pages, hpages, hkeys⟩ := h _ fun i => (hfound i).1
    have hsame : (pagesOf size n orders).map id = (List.range n).flatMap pages := by
      rw [pagesOf, List.map_flatMap]
      apply List.flatMap_congr
      intro i hi
      have hread := hpage i (List.mem_range.mp hi) _ (hfound i).1
      rw [hpages i (List.mem_range.mp hi), (hfound i).2] at hread
      exact (Prod.mk.inj (Option.some.inj hread)).1.symm
    rw [hsame]
    exact hkeys
  · intro h found hfound
    refine ⟨fun i => (slice size (i * size) (orderByDesc key ((found i).filter p))).map id, ?_, ?_⟩
    · intro i hi
      rw [hpage i hi (found i) (hfound i), List.length_map]
    · rw [← List.map_flatMap]
      exact h (fun i => orderByDesc key ((found i).filter p))
        (fun i => (orderByDesc_perm _).trans ((hfound i).filter p)) fun i => sortedBy_orderByDesc _

end Lists

end RcProtocol.Library
