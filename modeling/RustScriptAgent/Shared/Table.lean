import Mathlib.Data.List.Nodup
import Mathlib.Data.List.Pairwise

namespace Relational

open List

structure Schema (Row : Type) where
  conflict : Row → Row → Bool
  check : Row → Bool
  symm : ∀ a b, conflict a b = conflict b a

structure Schema.Assignment {Row : Type} (schema : Schema Row) where
  apply : Row → Row
  left : ∀ a b, schema.conflict (apply a) b = schema.conflict a b
  right : ∀ a b, schema.conflict a (apply b) = schema.conflict a b
  check : ∀ a, schema.check a = true → schema.check (apply a) = true

structure Table {Row : Type} (schema : Schema Row) where
  rows : List Row
  unique : rows.Pairwise (fun a b => schema.conflict a b = false)
  checked : ∀ row ∈ rows, schema.check row = true

namespace Table

variable {Row : Type} {schema : Schema Row}

theorem ext_rows {a b : Table schema} (same : a.rows = b.rows) : a = b := by
  rcases a with ⟨rows, _, _⟩
  rcases b with ⟨other, _, _⟩
  cases same
  rfl

variable {table : Table schema}

theorem eq_of_conflict {a b : Row} (first : a ∈ table.rows) (second : b ∈ table.rows)
    (conflict : schema.conflict a b) : a = b := by
  by_contra distinct
  have symmetric : Std.Symm (fun a b => schema.conflict a b = false) := ⟨fun a b free => (schema.symm b a).trans free⟩
  have free := table.unique.forall first second distinct
  simp [conflict] at free

def empty : Table schema := ⟨[], Pairwise.nil, by simp⟩

def ofRow (row : Row) (check : schema.check row = true) : Table schema :=
  ⟨[row], pairwise_singleton _ _, by simpa using check⟩

def accepts (table : Table schema) (row : Row) : Bool :=
  schema.check row && table.rows.all (fun stored => !schema.conflict stored row)

theorem accepts_iff (table : Table schema) (row : Row) :
    table.accepts row ↔
      schema.check row ∧ ∀ stored ∈ table.rows, schema.conflict stored row = false := by
  simp [accepts]

def push (table : Table schema) (row : Row) (accepted : table.accepts row = true) : Table schema where
  rows := table.rows ++ [row]
  unique := by
    rw [accepts_iff] at accepted
    refine pairwise_append.mpr ⟨table.unique, pairwise_singleton _ _, ?_⟩
    intro stored member other last
    rw [mem_singleton] at last
    subst last
    exact accepted.2 stored member
  checked := by
    rw [accepts_iff] at accepted
    intro stored member
    rcases mem_append.mp member with old | new
    · exact table.checked stored old
    · rw [mem_singleton] at new
      subst new
      exact accepted.1

def insert? (table : Table schema) (row : Row) : Option (Table schema) :=
  if accepted : table.accepts row = true then some (table.push row accepted) else none

theorem insert?_eq_some {table next : Table schema} {row : Row} :
    table.insert? row = some next ↔ table.accepts row ∧ next.rows = table.rows ++ [row] := by
  unfold insert?
  split_ifs with accepted
  · simp only [Option.some.injEq, accepted, true_and]
    constructor
    · rintro rfl
      rfl
    · intro same
      exact ext_rows same.symm
  · simp [accepted]

variable {row : Row}

theorem insert?_eq_none :
    table.insert? row = none ↔ table.accepts row = false := by
  unfold insert?
  split_ifs with accepted <;> simp [accepted]

def insertOrIgnore (table : Table schema) (row : Row) : Table schema :=
  (table.insert? row).getD table

theorem insertOrIgnore_rows (table : Table schema) (row : Row) :
    (table.insertOrIgnore row).rows =
      if table.accepts row then table.rows ++ [row] else table.rows := by
  unfold insertOrIgnore insert?
  split_ifs <;> rfl

def insertEachOrIgnore (table : Table schema) (rows : List Row) : Table schema :=
  rows.foldl insertOrIgnore table

theorem insertOrIgnore_mono (table : Table schema) (row stored : Row) (member : stored ∈ table.rows) :
    stored ∈ (table.insertOrIgnore row).rows := by
  rw [insertOrIgnore_rows]
  split_ifs
  · exact mem_append_left _ member
  · exact member

theorem insertEachOrIgnore_mono (table : Table schema) (rows : List Row) (stored : Row)
    (member : stored ∈ table.rows) : stored ∈ (table.insertEachOrIgnore rows).rows := by
  induction rows generalizing table with
  | nil => exact member
  | cons row rows ih => exact ih (table.insertOrIgnore row) (insertOrIgnore_mono table row stored member)

def acceptedRows (table : Table schema) : List Row → List Row
  | [] => []
  | row :: rest =>
    if table.accepts row = true then row :: acceptedRows (table.insertOrIgnore row) rest
    else acceptedRows table rest

theorem acceptedRows_cons (table : Table schema) (row : Row) (rest : List Row) :
    table.acceptedRows (row :: rest) =
      (if table.accepts row then [row] else []) ++ (table.insertOrIgnore row).acceptedRows rest := by
  rw [acceptedRows]
  split_ifs with accepted
  · rfl
  · have same : table.insertOrIgnore row = table := ext_rows (by rw [insertOrIgnore_rows, if_neg accepted])
    rw [same, nil_append]

theorem insertEachOrIgnore_rows (table : Table schema) (rows : List Row) :
    (table.insertEachOrIgnore rows).rows = table.rows ++ table.acceptedRows rows := by
  induction rows generalizing table with
  | nil => simp [insertEachOrIgnore, acceptedRows]
  | cons row rest ih =>
    refine (ih (table.insertOrIgnore row)).trans ?_
    rw [acceptedRows_cons, insertOrIgnore_rows, ← append_assoc]
    split_ifs
    · rfl
    · rw [append_nil]

theorem acceptedRows_sublist (table : Table schema) (rows : List Row) :
    (table.acceptedRows rows).Sublist rows := by
  induction rows generalizing table with
  | nil => exact Sublist.refl []
  | cons row rest ih =>
    rw [acceptedRows]
    split_ifs
    · exact (ih _).cons_cons row
    · exact (ih _).cons row

variable {rows : List Row}

theorem mem_insertEachOrIgnore
    (stored : row ∈ (table.insertEachOrIgnore rows).rows) : row ∈ table.rows ∨ row ∈ rows := by
  rw [insertEachOrIgnore_rows, mem_append] at stored
  exact stored.imp_right fun new => (table.acceptedRows_sublist rows).subset new

theorem mem_acceptedRows_iff :
    row ∈ table.acceptedRows rows ↔
      ∃ earlier later, rows = earlier ++ row :: later ∧ (table.insertEachOrIgnore earlier).accepts row := by
  induction rows generalizing table with
  | nil => simp [acceptedRows]
  | cons head rest ih =>
    rw [acceptedRows_cons, mem_append, ih]
    constructor
    · rintro (first | ⟨earlier, later, rfl, free⟩)
      · split_ifs at first with accepted
        · rw [mem_singleton.mp first]
          exact ⟨[], rest, rfl, accepted⟩
        · cases first
      · exact ⟨head :: earlier, later, rfl, free⟩
    · rintro ⟨_ | ⟨_, earlier⟩, later, split, free⟩
      · cases split
        exact .inl (by simp [show table.accepts row from free])
      · cases split
        exact .inr ⟨earlier, later, rfl, free⟩

theorem accepts_insertOrIgnore {row other : Row} (accepted : table.accepts row) :
    (table.insertOrIgnore row).accepts other ↔
      table.accepts other ∧ schema.conflict row other = false := by
  rw [accepts_iff, accepts_iff, insertOrIgnore_rows, if_pos accepted, and_assoc]
  refine and_congr_right fun _ => ?_
  simp [or_imp, forall_and, forall_eq]

theorem acceptedRows_eq_self (free : ∀ row ∈ rows, table.accepts row)
    (apart : rows.Pairwise (fun a b => schema.conflict a b = false)) : table.acceptedRows rows = rows := by
  induction rows generalizing table with
  | nil => rfl
  | cons row rest ih =>
    have accepted := free row mem_cons_self
    rw [pairwise_cons] at apart
    rw [acceptedRows, if_pos accepted, ih _ apart.2]
    intro other member
    exact (accepts_insertOrIgnore accepted).mpr ⟨free other (mem_cons_of_mem row member), apart.1 other member⟩

theorem acceptedRows_eq_nil (refused : ∀ row ∈ rows, table.accepts row = false) : table.acceptedRows rows = [] := by
  induction rows with
  | nil => rfl
  | cons row rest ih =>
    rw [acceptedRows, if_neg (by simp [refused row mem_cons_self])]
    exact ih fun other member => refused other (mem_cons_of_mem row member)

theorem mem_acceptedRows_of_apart (listed : row ∈ rows)
    (free : table.accepts row) (apart : ∀ other ∈ rows, other ≠ row → schema.conflict other row = false) :
    row ∈ table.acceptedRows rows := by
  obtain ⟨earlier, later, rfl, first⟩ := eq_append_cons_of_mem listed
  rw [accepts_iff] at free
  refine mem_acceptedRows_iff.mpr ⟨earlier, later, rfl, (accepts_iff _ _).mpr ⟨free.1, fun stored member => ?_⟩⟩
  rw [insertEachOrIgnore_rows, mem_append] at member
  rcases member with old | new
  · exact free.2 stored old
  · have before := (table.acceptedRows_sublist earlier).subset new
    exact apart stored (mem_append_left _ before) fun same => first (same ▸ before)

section

variable (self : ∀ row, schema.conflict row row)
include self

theorem rows_nodup (table : Table schema) : table.rows.Nodup :=
  table.unique.imp fun {a b} free same => by simp [same, self] at free

theorem filter_eq_singleton {table : Table schema}
    {chosen : Row → Bool} {row : Row} (member : row ∈ table.rows) (holds : chosen row)
    (only : ∀ other ∈ table.rows, chosen other → other = row) : table.rows.filter chosen = [row] := by
  have listed : row ∈ table.rows.filter chosen := mem_filter.mpr ⟨member, holds⟩
  have nodup := (rows_nodup self table).filter chosen
  have all : ∀ other ∈ table.rows.filter chosen, other = row := fun other found =>
    only other (mem_filter.mp found).1 (mem_filter.mp found).2
  generalize table.rows.filter chosen = found at listed nodup all
  rcases found with _ | ⟨first, _ | ⟨second, rest⟩⟩
  · simp at listed
  · rw [all first mem_cons_self]
  · rw [all first (by simp), all second (by simp)] at nodup
    simp at nodup

theorem countP_eq_one {table : Table schema} {chosen : Row → Bool}
    {row : Row} (member : row ∈ table.rows) (holds : chosen row)
    (only : ∀ other ∈ table.rows, chosen other → other = row) : table.rows.countP chosen = 1 := by
  rw [countP_eq_length_filter, filter_eq_singleton self member holds only]
  rfl

end

theorem mono_accepts {table larger : Table schema} (grown : ∀ row ∈ table.rows, row ∈ larger.rows) {row : Row}
    (refused : table.accepts row = false) : larger.accepts row = false := by
  by_contra accepted
  rw [Bool.not_eq_false, accepts_iff] at accepted
  have held : table.accepts row :=
    (accepts_iff table row).mpr ⟨accepted.1, fun stored member => accepted.2 stored (grown stored member)⟩
  simp [held] at refused

theorem accepts_of_mem_acceptedRows (stored : row ∈ table.acceptedRows rows) : table.accepts row := by
  obtain ⟨earlier, _, _, free⟩ := mem_acceptedRows_iff.mp stored
  by_contra refused
  rw [mono_accepts (table.insertEachOrIgnore_mono earlier) (by simpa using refused)] at free
  cases free

theorem filter_acceptedRows {chosen : Row → Bool} {row : Row}
    (single : rows.filter chosen = [row])
    (apart : ∀ other ∈ rows, other ≠ row → schema.conflict other row = false) :
    (table.acceptedRows rows).filter chosen = if table.accepts row then [row] else [] := by
  have listed : row ∈ rows ∧ chosen row := mem_filter.mp (single ▸ mem_singleton_self row)
  have part : ((table.acceptedRows rows).filter chosen).Sublist [row] :=
    single ▸ (table.acceptedRows_sublist rows).filter chosen
  split_ifs with accepted
  · have stored : row ∈ (table.acceptedRows rows).filter chosen :=
      mem_filter.mpr ⟨mem_acceptedRows_of_apart listed.1 accepted apart, listed.2⟩
    rcases sublist_singleton.mp part with none | whole
    · simp [none] at stored
    · exact whole
  · rcases sublist_singleton.mp part with none | whole
    · exact none
    · have stored : row ∈ (table.acceptedRows rows).filter chosen := whole ▸ mem_singleton_self row
      exact absurd (accepts_of_mem_acceptedRows (mem_filter.mp stored).1) accepted

theorem insertEachOrIgnore_accepts (table : Table schema) {rows : List Row} {row : Row}
    (self : schema.conflict row row) (member : row ∈ rows) :
    (table.insertEachOrIgnore rows).accepts row = false := by
  induction rows generalizing table with
  | nil => simp at member
  | cons head rest ih =>
    rcases mem_cons.mp member with rfl | later
    · refine mono_accepts (insertEachOrIgnore_mono (table.insertOrIgnore row) rest) ?_
      cases accepted : table.accepts row with
      | false => exact mono_accepts (insertOrIgnore_mono table row) accepted
      | true =>
        by_contra again
        rw [Bool.not_eq_false, accepts_insertOrIgnore accepted, self] at again
        cases again.2
    · exact ih (table.insertOrIgnore head) later

def FirstFree (table : Table schema) (rows : List Row) (row : Row) : Prop :=
  ∃ earlier later, rows = earlier ++ row :: later ∧ table.accepts row = true ∧
    ∀ other ∈ earlier, schema.check other = true → schema.conflict other row = false

theorem mem_acceptedRows (self : ∀ row, schema.conflict row row)
    (transitive : ∀ a, a ∈ table.rows ∨ a ∈ rows → ∀ b ∈ rows, ∀ c ∈ rows,
      schema.conflict a b → schema.conflict b c → schema.conflict a c) :
    row ∈ table.acceptedRows rows ↔ table.FirstFree rows row := by
  -- when conflicts are transitive on the rows at hand, INSERT OR IGNORE stores the first of each key
  rw [mem_acceptedRows_iff, FirstFree]
  refine exists_congr fun earlier => exists_congr fun later => and_congr_right ?_
  rintro rfl
  rw [accepts_iff, accepts_iff, insertEachOrIgnore_rows, and_assoc]
  refine and_congr_right fun _ => ?_
  simp only [mem_append, or_imp, forall_and]
  refine and_congr_right fun free => ⟨fun clear other member passes => ?_, fun clear other stored => ?_⟩
  · -- an earlier row that passes the checks meets a row that was stored by then, at least itself
    have refused := table.insertEachOrIgnore_accepts (self other) member
    rw [← Bool.not_eq_true, accepts_iff, not_and] at refused
    by_contra clash
    refine refused passes fun stored held => ?_
    have origin := mem_insertEachOrIgnore held
    rw [insertEachOrIgnore_rows, mem_append] at held
    have apart : schema.conflict stored row = false := held.elim (free stored) (clear stored)
    by_contra meets
    have both := transitive stored (origin.imp_right (mem_append_left _)) other (mem_append_left _ member) row
      (by simp) (by simpa using meets) (by simpa using clash)
    simp [apart] at both
  · exact clear other ((table.acceptedRows_sublist earlier).subset stored)
      ((accepts_iff table other).mp (accepts_of_mem_acceptedRows stored)).1

def delete (table : Table schema) (doomed : Row → Bool) : Table schema where
  rows := table.rows.filter (fun row => !doomed row)
  unique := table.unique.sublist filter_sublist
  checked row member := table.checked row (mem_filter.mp member).1

@[simp] theorem delete_rows (table : Table schema) (doomed : Row → Bool) :
    (table.delete doomed).rows = table.rows.filter (fun row => !doomed row) := rfl

def update (table : Table schema) (selected : Row → Bool) (assignment : schema.Assignment) :
    Table schema where
  rows := table.rows.map (fun row => if selected row then assignment.apply row else row)
  unique := by
    refine table.unique.map _ ?_
    intro a b free
    split_ifs <;> simpa [assignment.left, assignment.right] using free
  checked := by
    intro row member
    rcases mem_map.mp member with ⟨stored, present, rfl⟩
    split_ifs
    · exact assignment.check stored (table.checked stored present)
    · exact table.checked stored present

@[simp] theorem update_rows (table : Table schema) (selected : Row → Bool)
    (assignment : schema.Assignment) :
    (table.update selected assignment).rows =
      table.rows.map (fun row => if selected row then assignment.apply row else row) := rfl

theorem insertOrIgnore_eq_self :
    table.insertOrIgnore row = table ↔ table.accepts row = false := by
  constructor
  · intro same
    have rows := congrArg Table.rows same
    rw [insertOrIgnore_rows] at rows
    split_ifs at rows with accepted
    · simp at rows
    · simpa using accepted
  · intro refused
    apply ext_rows
    rw [insertOrIgnore_rows, if_neg (by simp [refused])]

theorem delete_eq_self {doomed : Row → Bool} :
    table.delete doomed = table ↔ ∀ row ∈ table.rows, doomed row = false := by
  constructor
  · intro same row member
    have rows := congrArg Table.rows same
    rw [delete_rows, filter_eq_self] at rows
    simpa using rows row member
  · intro spared
    apply ext_rows
    rw [delete_rows, filter_eq_self]
    simpa using spared

theorem update_eq_self {selected : Row → Bool} {assignment : schema.Assignment} :
    table.update selected assignment = table ↔
      ∀ row ∈ table.rows, selected row → assignment.apply row = row := by
  have pointwise : (table.update selected assignment).rows = table.rows.map id ↔
      ∀ row ∈ table.rows, (if selected row then assignment.apply row else row) = id row := by
    rw [update_rows, map_inj_left]
  rw [map_id] at pointwise
  constructor
  · intro same row member chosen
    simpa [chosen] using pointwise.mp (congrArg Table.rows same) row member
  · intro fixed
    apply ext_rows
    refine pointwise.mpr fun row member => ?_
    split_ifs with chosen
    · exact fixed row member chosen
    · rfl

end Table

end Relational
