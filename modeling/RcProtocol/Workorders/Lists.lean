import RcProtocol.Workorders.Repo
import RcProtocol.Library.Select

/-!
The list of workorders (internal/repo/workorder.go, `List`).
-/

namespace RcProtocol.Workorders
open Library

def Status.name : Status → String
  | .opened => "open"
  | .assigned => "assigned"
  | .inProgress => "in_progress"
  | .resolved => "resolved"
  | .closed => "closed"
  | .cancelled => "cancelled"

inductive Column where
  | status | type | assigneeID | creatorOrgID | brandID

/-- A column of type UUID takes an argument that is one. -/
def Column.equals : Column → String → Option (Workorder → Bool)
  | .status, s => some fun w => w.status.name = s
  | .type, s => some fun w => w.type = s
  | .assigneeID, s => (uuidIn s).map fun id w => w.assigneeID = some id
  | .creatorOrgID, s => (uuidIn s).map fun id w => w.creatorOrgID = id
  | .brandID, s => some fun w => w.brandID = some s

/-- The `WHERE` clause so far, its arguments, and the number of the next one. -/
structure Where where
  conditions : Conditions Column := []
  args : List Arg := []
  argIdx : Nat := 1

def Where.push (clause : Where) (column : Column) (value : String) : Where where
  conditions := clause.conditions ++ [[(column, clause.argIdx)]]
  args := clause.args ++ [.text value]
  argIdx := clause.argIdx + 1

/-- `argIdx` and `argIdx+1`, in one condition. -/
def Where.pushTenant (clause : Where) (orgID brandID : String) : Where where
  conditions :=
    clause.conditions ++ [[(.creatorOrgID, clause.argIdx), (.brandID, clause.argIdx + 1)]]
  args := clause.args ++ [.text orgID, .text brandID]
  argIdx := clause.argIdx + 2

def listWhere (filterStatus filterType assigneeID orgID brandID : String) : Where :=
  let clause : Where := {}
  let clause := if filterStatus ≠ "" then clause.push .status filterStatus else clause
  let clause := if filterType ≠ "" then clause.push .type filterType else clause
  let clause := if assigneeID ≠ "" then clause.push .assigneeID assigneeID else clause
  if orgID ≠ "" then clause.pushTenant orgID brandID else clause

inductive ListQuery where
  | count | rows

def answerTo (fails : ListQuery → Option String) {α : Type} (q : ListQuery) :
    Option α → Except String α
  | none => .error badArgument
  | some a =>
      match fails q with
      | some e => .error e
      | none => .ok a

/-- `List`, on the rows in the order in which its second statement finds them. -/
def Repo.list (fails : ListQuery → Option String) (s : Repo) (createdAt : Workorder → Int)
    (found : List Workorder) (filterStatus filterType assigneeID orgID brandID : String)
    (page pageSize : Int) : Except String (List Workorder × Nat) := do
  let clause := listWhere filterStatus filterType assigneeID orgID brandID
  let total ← answerTo fails .count (selectCount Column.equals clause.args clause.conditions s.rows)
  let offset := ((page - 1) * pageSize).bmod (2 ^ 64)
  let select : Select Column := ⟨clause.conditions, clause.argIdx, clause.argIdx + 1⟩
  let items ← answerTo fails .rows
    (select.run Column.equals (clause.args ++ [.int pageSize, .int offset]) createdAt found)
  .ok (items, total)

section Filters
variable (filterStatus filterType assigneeID orgID brandID : String)

/-- The workorders the arguments ask for, an empty one asking for nothing. -/
def Matches (w : Workorder) : Bool :=
  (filterStatus = "" || w.status.name = filterStatus) && (filterType = "" || w.type = filterType) &&
    (assigneeID = "" || (uuidIn assigneeID).any fun id => w.assigneeID = some id) &&
    (orgID = "" || ((uuidIn orgID).any fun id => w.creatorOrgID = id) || w.brandID = some brandID)

/-- The arguments for the columns of type UUID are UUIDs. -/
def ListTyped : Prop :=
  (assigneeID = "" ∨ (uuidIn assigneeID).isSome = true) ∧ (orgID = "" ∨ (uuidIn orgID).isSome = true)

instance : Decidable (ListTyped assigneeID orgID) := inferInstanceAs (Decidable (_ ∧ _))

end Filters

section Clause
variable {clause : Where} {test : Option (Workorder → Bool)} {column : Column} {value : String}

/-- The clause has numbered its arguments, and they make this test. -/
structure Where.Reads (clause : Where) (test : Option (Workorder → Bool)) : Prop where
  next : clause.argIdx = clause.args.length + 1
  tests : ∀ rest, whereTest Column.equals (clause.args ++ rest) clause.conditions = test

theorem Where.reads_push (h : clause.Reads test) :
    (clause.push column value).Reads (andTest test (column.equals value)) := by
  constructor
  · simp only [push, h.next, List.length_append, List.length_singleton]
  · intro rest
    have hcolumn : columnTest Column.equals (clause.args ++ .text value :: rest)
        (column, clause.argIdx) = column.equals value := by
      simp only [columnTest, h.next, argument_next]
    simp only [push, whereTest_append, List.append_assoc, List.singleton_append, h.tests,
      whereTest, conditionTest, hcolumn, orTest_false, andTest_true]

theorem Where.reads_pushTenant {orgID brandID : String} (h : clause.Reads test) :
    (clause.pushTenant orgID brandID).Reads
      (andTest test (orTest (Column.creatorOrgID.equals orgID) (Column.brandID.equals brandID))) := by
  constructor
  · simp only [pushTenant, h.next, List.length_append, List.length_cons, List.length_nil]
  · intro rest
    have horg : columnTest Column.equals (clause.args ++ .text orgID :: .text brandID :: rest)
        (.creatorOrgID, clause.argIdx) = Column.creatorOrgID.equals orgID := by
      simp only [columnTest, h.next, argument_next]
    have hbrand : columnTest Column.equals (clause.args ++ .text orgID :: .text brandID :: rest)
        (.brandID, clause.argIdx + 1) = Column.brandID.equals brandID := by
      have hnext := @argument_next (clause.args ++ [.text orgID]) (.text brandID) rest
      rw [List.length_append, List.length_singleton, List.append_assoc,
        List.singleton_append] at hnext
      simp only [columnTest, h.next, hnext]
    simp only [pushTenant, whereTest_append, List.append_assoc, List.cons_append, List.nil_append,
      h.tests, whereTest, conditionTest, horg, hbrand, orTest_false, andTest_true]

/-- An argument that is empty adds no condition. -/
theorem Where.reads_ite {P : Prop} [Decidable P] {filtered : Where}
    {more : Option (Workorder → Bool)}
    (h : clause.Reads test) (hfiltered : filtered.Reads (andTest test more)) :
    (if P then filtered else clause).Reads
      (andTest test (if P then more else some fun _ => true)) := by
  split
  · exact hfiltered
  · rw [andTest_true]
    exact h

theorem Where.Reads.filter (h : clause.Reads test) (column : Column) (value : String) :
    (if value ≠ "" then clause.push column value else clause).Reads
      (andTest test (if value ≠ "" then column.equals value else some fun _ => true)) :=
  Where.reads_ite h (Where.reads_push h)

end Clause

section Matching
variable {filterStatus filterType assigneeID orgID brandID : String}

theorem textTest {value : String} {column : Workorder → String} :
    (if value ≠ "" then some (fun w => decide (column w = value)) else some fun _ => true) =
      some fun w => value = "" || column w = value := by
  by_cases h : value = "" <;> simp [h]

theorem assigneeTest : (if assigneeID ≠ "" then Column.assigneeID.equals assigneeID
      else some fun _ => true) =
    if assigneeID = "" ∨ (uuidIn assigneeID).isSome = true then
      some fun w => assigneeID = "" || (uuidIn assigneeID).any fun id => w.assigneeID = some id
    else none := by
  by_cases h : assigneeID = ""
  · simp [h]
  · cases hid : uuidIn assigneeID <;> simp [h, hid, Column.equals]

theorem tenantTest : (if orgID ≠ "" then
      orTest (Column.creatorOrgID.equals orgID) (Column.brandID.equals brandID)
      else some fun _ => true) =
    if orgID = "" ∨ (uuidIn orgID).isSome = true then
      some fun w => orgID = "" ||
        ((uuidIn orgID).any fun id => w.creatorOrgID = id) || w.brandID = some brandID
    else none := by
  by_cases h : orgID = ""
  · simp [h]
  · cases hid : uuidIn orgID <;> simp [h, hid, Column.equals, orTest]

/-- The clause that is built asks for the workorders the arguments ask for. -/
theorem listWhere_reads : (listWhere filterStatus filterType assigneeID orgID brandID).Reads
    (if ListTyped assigneeID orgID then
      some (Matches filterStatus filterType assigneeID orgID brandID) else none) := by
  have hstart : ({} : Where).Reads (some fun _ => true) := ⟨rfl, fun _ => rfl⟩
  have hfilters := ((hstart.filter .status filterStatus).filter .type filterType).filter
    .assigneeID assigneeID
  have hall : (listWhere filterStatus filterType assigneeID orgID brandID).Reads _ :=
    Where.reads_ite hfilters (Where.reads_pushTenant hfilters)
  rw [assigneeTest, tenantTest, Column.equals, Column.equals, textTest, textTest] at hall
  by_cases hassignee : assigneeID = "" ∨ (uuidIn assigneeID).isSome = true
  · by_cases horg : orgID = "" ∨ (uuidIn orgID).isSome = true
    · rw [if_pos hassignee, if_pos horg] at hall
      have htyped : ListTyped assigneeID orgID := ⟨hassignee, horg⟩
      rw [if_pos htyped]
      exact hall
    · rw [if_pos hassignee, if_neg horg] at hall
      have htyped : ¬ListTyped assigneeID orgID := fun h => horg h.2
      rw [if_neg htyped]
      exact hall
  · rw [if_neg hassignee] at hall
    have htyped : ¬ListTyped assigneeID orgID := fun h => hassignee h.1
    rw [if_neg htyped]
    exact hall

/-- The list of rows that `List` answers with. -/
theorem list_eq {s : Repo} {createdAt : Workorder → Int} {found : List Workorder}
    {page pageSize : Int} (hsize : 0 ≤ pageSize)
    (hoffset : 0 ≤ ((page - 1) * pageSize).bmod (2 ^ 64)) :
    s.list (fun _ => none) createdAt found filterStatus filterType assigneeID orgID brandID page
        pageSize =
      if ListTyped assigneeID orgID then
        .ok (slice pageSize.toNat (((page - 1) * pageSize).bmod (2 ^ 64)).toNat
          (orderByDesc createdAt
            (found.filter (Matches filterStatus filterType assigneeID orgID brandID))),
          (s.rows.filter (Matches filterStatus filterType assigneeID orgID brandID)).length)
      else .error badArgument := by
  obtain ⟨hnext, htests⟩ :=
    @listWhere_reads filterStatus filterType assigneeID orgID brandID
  unfold Repo.list
  generalize listWhere filterStatus filterType assigneeID orgID brandID = clause at *
  generalize ((page - 1) * pageSize).bmod (2 ^ 64) = offset at *
  have hcount := htests []
  rw [List.append_nil] at hcount
  have hlimit : argument (clause.args ++ [.int pageSize, .int offset]) clause.argIdx =
      some (.int pageSize) := by
    rw [hnext, argument_next]
  have hskip : argument (clause.args ++ [.int pageSize, .int offset]) (clause.argIdx + 1) =
      some (.int offset) := by
    have hafter := @argument_next (clause.args ++ [.int pageSize]) (.int offset) []
    rw [List.length_append, List.length_singleton, List.append_assoc, List.singleton_append] at hafter
    rw [hnext, hafter]
  have hvalid : ¬(pageSize < 0 ∨ offset < 0) := by omega
  by_cases htyped : ListTyped assigneeID orgID
  · rw [if_pos htyped] at hcount htests ⊢
    simp only [selectCount, hcount, Select.run, htests, hlimit, hskip, if_neg hvalid]
    rfl
  · rw [if_neg htyped] at hcount ⊢
    simp only [selectCount, hcount]
    rfl

end Matching

end RcProtocol.Workorders
