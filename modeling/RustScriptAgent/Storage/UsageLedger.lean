import Mathlib.Algebra.Order.BigOperators.Group.List
import RustScriptAgent.Storage.Usage

namespace RustScriptAgent.Storage

open Relational UsageInput Amount UsageTables Separated List

variable {inputs : List UsageInput} {entry : UsageInput} {row : UsageRow} {known : String → Bool}

namespace UsageInput

def acceptable (accepts : String → Bool) (foreignKeys : Bool) (known : String → Bool) (input : UsageInput) : Bool :=
  input.texts.all accepts && input.nonneg && !input.id.toList.contains '|' && (!foreignKeys || known input.line.runId)

def repeats (input earlier : UsageInput) : Bool := decide (earlier.line = input.line) && decide (earlier.id = input.id)

end UsageInput

def countUsage (acceptable : UsageInput → Bool) (ledger : List UsageInput) (input : UsageInput) : List UsageInput :=
  if acceptable input && !ledger.any input.repeats then ledger ++ [input] else ledger

def usageLedger (acceptable : UsageInput → Bool) (inputs : List UsageInput) : List UsageInput :=
  inputs.foldl (countUsage acceptable) []

def usageTotal (count : UsageInput → Int) (run : String) (ledger : List UsageInput) : Int :=
  ((ledger.filter fun entry => entry.line.runId == run).map count).sum

def entriesOf (ledger : List UsageInput) (line : UsageLine) : List UsageInput :=
  ledger.filter fun entry => decide (entry.line = line)

def Opens (ledger : List UsageInput) (entry : UsageInput) : Prop := (entriesOf ledger entry.line).head? = some entry

def OpenedApart (ledger : List UsageInput) : Prop :=
  ∀ a b, Opens ledger a → Opens ledger b → a.id = b.id → a.line = b.line

def TotalsFit (known : String → Bool) (ledger : List UsageInput) : Prop :=
  ∀ run, known run = true →
    usageTotal inputTokens run ledger ≤ maxInteger ∧ usageTotal outputTokens run ledger ≤ maxInteger

def UsageTables.Holds (tables : UsageTables) (line : UsageLine) (id : String) : Prop :=
  ∃ row ∈ tables.usage.rows, row.line = line ∧
    Separated.position row.usageIds.toList (Separated.enclosed '|' id.toList) ≠ 0

structure Accounts (tables : UsageTables) (ledger : List UsageInput) : Prop where
  tokens : ∀ run ∈ tables.runs.rows,
    run.inputTokens = .integer (usageTotal inputTokens run.id ledger) ∧
    run.outputTokens = .integer (usageTotal outputTokens run.id ledger)
  ids : ∀ line id, '|' ∉ id.toList → (tables.Holds line id ↔ ∃ entry ∈ ledger, entry.line = line ∧ entry.id = id)

section Ledger

variable {acceptable : UsageInput → Bool} {ledger more : List UsageInput} {input : UsageInput}

theorem usageLedger_append_single (inputs : List UsageInput) (input : UsageInput) :
    usageLedger acceptable (inputs ++ [input]) = countUsage acceptable (usageLedger acceptable inputs) input := by
  simp [usageLedger]

theorem countUsage_cases (acceptable : UsageInput → Bool) (ledger : List UsageInput) (input : UsageInput) :
    ((acceptable input = false ∨ ledger.any input.repeats) ∧ countUsage acceptable ledger input = ledger) ∨
      (acceptable input ∧ ledger.any input.repeats = false ∧
        countUsage acceptable ledger input = ledger ++ [input]) := by
  unfold countUsage
  cases taken : acceptable input <;> cases known : ledger.any input.repeats <;> simp

theorem usageLedger_begins (inputs more : List UsageInput) :
    usageLedger acceptable inputs <+: usageLedger acceptable (inputs ++ more) := by
  induction more using reverseRecOn with
  | nil => rw [append_nil]
  | append_singleton more input ih =>
    rw [← append_assoc, usageLedger_append_single]
    rcases countUsage_cases acceptable (usageLedger acceptable (inputs ++ more)) input with
      ⟨_, same⟩ | ⟨_, _, longer⟩
    · rw [same]
      exact ih
    · rw [longer]
      exact ih.trans (prefix_append _ _)

theorem acceptable_of_mem
    (member : entry ∈ usageLedger acceptable inputs) : acceptable entry := by
  induction inputs using reverseRecOn with
  | nil => cases member
  | append_singleton inputs input ih =>
    rw [usageLedger_append_single] at member
    rcases countUsage_cases acceptable (usageLedger acceptable inputs) input with ⟨_, same⟩ | ⟨taken, _, longer⟩
    · rw [same] at member
      exact ih member
    · rw [longer, mem_append, mem_singleton] at member
      rcases member with earlier | rfl
      · exact ih earlier
      · exact taken

theorem entriesOf_append (ledger more : List UsageInput) (line : UsageLine) :
    entriesOf (ledger ++ more) line = entriesOf ledger line ++ entriesOf more line := filter_append _ _

theorem usageTotal_append (count : UsageInput → Int) (run : String) (ledger more : List UsageInput) :
    usageTotal count run (ledger ++ more) = usageTotal count run ledger + usageTotal count run more := by
  simp [usageTotal]

theorem usageTotal_nonneg {count : UsageInput → Int} (run : String) (nonneg : ∀ entry ∈ ledger, 0 ≤ count entry) :
    0 ≤ usageTotal count run ledger := by
  refine sum_nonneg fun value member => ?_
  obtain ⟨entry, found, rfl⟩ := mem_map.mp member
  exact nonneg entry (mem_filter.mp found).1

theorem Opens.append (opens : Opens ledger entry) : Opens (ledger ++ more) entry := by
  unfold Opens at opens ⊢
  rw [entriesOf_append, head?_append, opens]
  rfl

theorem opens_append_single :
    Opens (ledger ++ [input]) entry ↔ Opens ledger entry ∨ (entry = input ∧ entriesOf ledger input.line = []) := by
  unfold Opens
  rw [entriesOf_append, head?_append]
  cases entries : entriesOf ledger entry.line with
  | cons first rest =>
    simp only [head?_cons, Option.some_or, iff_self_or]
    rintro ⟨rfl, none⟩
    simp [none] at entries
  | nil =>
    by_cases same : input.line = entry.line
    · simp only [head?_nil, Option.none_or, reduceCtorEq, false_or]
      rw [entriesOf, filter_cons_of_pos (by simpa using same), filter_nil, head?_cons, Option.some_inj, same, entries]
      exact ⟨fun own => ⟨own.symm, rfl⟩, fun own => own.1.symm⟩
    · rw [entriesOf, filter_cons_of_neg (by simpa using same), filter_nil]
      simp only [head?_nil, Option.or_none, reduceCtorEq, false_or, false_iff, not_and]
      rintro rfl
      exact absurd rfl same

theorem OpenedApart.begins (apart : OpenedApart more) (longer : ledger <+: more) : OpenedApart ledger := by
  obtain ⟨later, rfl⟩ := longer
  exact fun a b first second same => apart a b first.append second.append same

theorem openedApart_fresh (fresh : entriesOf ledger input.line = []) :
    OpenedApart (ledger ++ [input]) ↔ OpenedApart ledger ∧ ∀ entry, Opens ledger entry → entry.id ≠ input.id := by
  have own : Opens (ledger ++ [input]) input := opens_append_single.mpr (.inr ⟨rfl, fresh⟩)
  -- an entry of the ledger is of another line
  have apart_line : ∀ entry, Opens ledger entry → entry.line ≠ input.line := by
    intro entry opens same
    unfold Opens at opens
    rw [same, fresh] at opens
    cases opens
  constructor
  · intro apart
    refine ⟨apart.begins (prefix_append _ _), fun entry opens same => ?_⟩
    exact apart_line entry opens (apart entry input opens.append own same)
  · rintro ⟨apart, new⟩ a b first second same
    rcases opens_append_single.mp first with earlier | ⟨rfl, _⟩
    · rcases opens_append_single.mp second with other | ⟨rfl, _⟩
      · exact apart a b earlier other same
      · exact absurd same (new a earlier)
    · rcases opens_append_single.mp second with other | ⟨rfl, _⟩
      · exact absurd same.symm (new b other)
      · rfl

end Ledger

structure RowOf (entries : List UsageInput) (row : UsageRow) : Prop where
  first : entries.head?.map UsageInput.id = some row.id
  ids : row.usageIds.toList = Separated.joined '|' (entries.map fun entry => entry.id.toList)
  inputs : row.inputTokens = .of (entries.map inputTokens).sum
  outputs : row.outputTokens = .of (entries.map outputTokens).sum

structure RowsReflect (table : Table usageSchema) (ledger : List UsageInput) : Prop where
  lines : ∀ entry ∈ ledger, ∃ row ∈ table.rows, row.line = entry.line
  rows : ∀ row ∈ table.rows, RowOf (entriesOf ledger row.line) row

theorem Amount.of_add {total more : Int} (nonneg : 0 ≤ more) : (of total).add more = of
    (total + more) := by
  unfold of
  split_ifs with small large large
  · rw [add, of, if_pos large]
  · rw [add, of, if_neg large]
  · omega
  · rfl

theorem RowOf.single (input : UsageInput) : RowOf [input] input.row where
  first := rfl
  ids := by
    simp only [row, String.toList_append, joined, map_cons, map_nil, flatMap_cons, flatMap_nil, append_nil]
    rfl
  inputs := by simp [row]
  outputs := by simp [row]

theorem RowOf.add {entries : List UsageInput} {input : UsageInput} (reflects : RowOf entries row)
    (nonneg : input.nonneg) : RowOf (entries ++ [input]) ((addUsage input nonneg).apply row) := by
  have counts := nonneg
  simp only [UsageInput.nonneg, Bool.and_eq_true, decide_eq_true_eq] at counts
  have some : entries.head?.isSome := by
    have first := reflects.first
    cases head : entries.head? <;> simp [head] at first ⊢
  refine ⟨?_, ?_, ?_, ?_⟩
  · rw [head?_append, Option.or_of_isSome some]
    exact reflects.first
  · rw [map_append, map_singleton, joined_append_single, ← reflects.ids]
    simp only [addUsage, String.toList_append]
    rfl
  · rw [map_append, sum_append, map_singleton, sum_singleton, ← of_add counts.1.1.1.2, ← reflects.inputs]
    rfl
  · rw [map_append, sum_append, map_singleton, sum_singleton, ← of_add counts.1.1.2, ← reflects.outputs]
    rfl

namespace RowsReflect

variable {table : Table usageSchema} {ledger : List UsageInput}

section

variable (reflects : RowsReflect table ledger)
include reflects

theorem line_iff (line : UsageLine) :
    (∃ row ∈ table.rows, row.line = line) ↔ entriesOf ledger line ≠ [] := by
  constructor
  · rintro ⟨row, member, rfl⟩ none
    have first := (reflects.rows row member).first
    simp [none] at first
  · intro some
    obtain ⟨entry, found⟩ := exists_mem_of_ne_nil _ some
    obtain ⟨member, same⟩ := mem_filter.mp found
    obtain ⟨row, stored, line⟩ := reflects.lines entry member
    exact ⟨row, stored, line.trans (by simpa using same)⟩

theorem opened (member : row ∈ table.rows) :
    ∃ entry, Opens ledger entry ∧ entry.line = row.line ∧ entry.id = row.id := by
  obtain ⟨entry, head, id⟩ := Option.map_eq_some_iff.mp (reflects.rows row member).first
  have found : entry ∈ entriesOf ledger row.line := mem_of_head? head
  have line : entry.line = row.line := by simpa using (mem_filter.mp found).2
  refine ⟨entry, ?_, line, id⟩
  unfold Opens
  rw [line]
  exact head

theorem stored (opens : Opens ledger entry) :
    ∃ row ∈ table.rows, row.line = entry.line ∧ row.id = entry.id := by
  have member : entry ∈ ledger := (mem_filter.mp (mem_of_head? opens)).1
  obtain ⟨row, stored, line⟩ := reflects.lines entry member
  refine ⟨row, stored, line, ?_⟩
  have first := (reflects.rows row stored).first
  rw [line, opens] at first
  exact (Option.some_inj.mp first).symm

theorem search (clean : ∀ entry ∈ ledger, '|' ∉ entry.id.toList)
    (member : row ∈ table.rows) {id : String} (plain : '|' ∉ id.toList) :
    position row.usageIds.toList (enclosed '|' id.toList) = 0 ↔
      ¬ ∃ entry ∈ ledger, entry.line = row.line ∧ entry.id = id := by
  have clear : ∀ word ∈ (entriesOf ledger row.line).map fun entry => entry.id.toList, '|' ∉ word := by
    intro word listed
    obtain ⟨entry, found, rfl⟩ := mem_map.mp listed
    exact clean entry (mem_filter.mp found).1
  rw [(reflects.rows row member).ids, position_eq_zero, enclosed_infix_joined plain clear, not_iff_not, mem_map]
  constructor
  · rintro ⟨entry, found, same⟩
    obtain ⟨listed, line⟩ := mem_filter.mp found
    exact ⟨entry, listed, by simpa using line, String.toList_inj.mp same⟩
  · rintro ⟨entry, listed, line, rfl⟩
    exact ⟨entry, mem_filter.mpr ⟨listed, by simpa using line⟩, rfl⟩

end

theorem holds_iff {tables : UsageTables} (reflects : RowsReflect tables.usage ledger)
    (clean : ∀ entry ∈ ledger, '|' ∉ entry.id.toList) (line : UsageLine) (id : String) (plain : '|' ∉ id.toList) :
    tables.Holds line id ↔ ∃ entry ∈ ledger, entry.line = line ∧ entry.id = id := by
  constructor
  · rintro ⟨row, member, rfl, found⟩
    by_contra none
    exact found ((reflects.search clean member plain).mpr none)
  · rintro ⟨entry, member, rfl, rfl⟩
    obtain ⟨row, stored, line⟩ := reflects.lines entry member
    refine ⟨row, stored, line, fun nowhere => ?_⟩
    exact (reflects.search clean stored plain).mp nowhere ⟨entry, member, line.symm, rfl⟩

section

variable (reflects : RowsReflect table ledger)
include reflects

theorem update {input : UsageInput} (nonneg : input.nonneg)
    (known : ∃ row ∈ table.rows, row.line = input.line) :
    RowsReflect (table.update (fun row => decide (row.line = input.line)) (addUsage input nonneg))
      (ledger ++ [input]) := by
  have line_kept : ∀ row, ((addUsage input nonneg).apply row).line = row.line := fun _ => rfl
  constructor
  · intro entry member
    have found : ∃ row ∈ table.rows, row.line = entry.line := by
      rcases mem_append.mp member with earlier | last
      · exact reflects.lines entry earlier
      · rw [mem_singleton.mp last]
        exact known
    obtain ⟨row, stored, line⟩ := found
    refine ⟨_, mem_map_of_mem stored, ?_⟩
    split <;> exact line
  · intro row member
    obtain ⟨old, stored, rfl⟩ := mem_map.mp member
    have before := reflects.rows old stored
    by_cases same : old.line = input.line
    · rw [if_pos (by simpa using same), line_kept, entriesOf_append,
        show entriesOf [input] old.line = [input] by simp [entriesOf, same]]
      exact before.add nonneg
    · rw [if_neg (by simpa using same), entriesOf_append,
        show entriesOf [input] old.line = [] by simp [entriesOf, Ne.symm same], append_nil]
      exact before

theorem insert {input : UsageInput} {next : Table usageSchema}
    (inserted : table.insert? input.row = some next) (fresh : entriesOf ledger input.line = []) :
    RowsReflect next (ledger ++ [input]) := by
  have rows := (Table.insert?_eq_some.mp inserted).2
  constructor
  · intro entry member
    rcases mem_append.mp member with earlier | last
    · obtain ⟨row, stored, line⟩ := reflects.lines entry earlier
      exact ⟨row, rows ▸ mem_append_left _ stored, line⟩
    · rw [mem_singleton.mp last]
      exact ⟨input.row, rows ▸ mem_append_right _ (mem_singleton_self _), rfl⟩
  · intro row member
    rw [rows, mem_append, mem_singleton] at member
    rcases member with stored | rfl
    · have other : row.line ≠ input.line := by
        intro same
        exact (reflects.line_iff input.line).mp ⟨row, stored, same⟩ fresh
      rw [entriesOf_append, show entriesOf [input] row.line = [] by simp [entriesOf, Ne.symm other], append_nil]
      exact reflects.rows row stored
    · have own : entriesOf [input] input.row.line = [input] := by simp [entriesOf, row]
      rw [entriesOf_append, own, show input.row.line = input.line from rfl, fresh]
      exact RowOf.single input

theorem insert?_isSome {input : UsageInput} (nonneg : input.nonneg)
    (fresh : entriesOf ledger input.line = []) :
    (table.insert? input.row).isSome ↔ ∀ entry, Opens ledger entry → entry.id ≠ input.id := by
  have check : usageSchema.check input.row := by
    simp only [UsageInput.nonneg, Bool.and_eq_true, decide_eq_true_eq] at nonneg
    simp [usageSchema, UsageInput.row, nonneg_of, nonneg]
  have accepts : (table.insert? input.row).isSome ↔ table.accepts input.row := by
    unfold Table.insert?
    split <;> simp_all
  rw [accepts, Table.accepts_iff]
  constructor
  · rintro ⟨_, free⟩ entry opens same
    obtain ⟨row, stored, _, id⟩ := reflects.stored opens
    have conflict := free row stored
    simp [usageSchema, UsageInput.row, id, same] at conflict
  · intro new
    refine ⟨check, fun row stored => ?_⟩
    have other : row.line ≠ input.line := fun same =>
      (reflects.line_iff input.line).mp ⟨row, stored, same⟩ fresh
    obtain ⟨entry, opens, _, id⟩ := reflects.opened stored
    have apart := new entry opens
    rw [id] at apart
    simp [usageSchema, UsageInput.row, other, apart]

theorem openedApart : OpenedApart ledger := by
  intro a b first second same
  obtain ⟨row, stored, line, id⟩ := reflects.stored first
  obtain ⟨other, kept, otherLine, otherId⟩ := reflects.stored second
  have conflict : usageSchema.conflict row other := by simp [usageSchema, id, otherId, same]
  rw [← line, ← otherLine, Table.eq_of_conflict stored kept conflict]

end

theorem line_nodup (table : Table usageSchema) : (table.rows.map UsageRow.line).Nodup := by
  refine List.Pairwise.map _ (fun a b free same => ?_) table.unique
  simp [usageSchema, same] at free

end RowsReflect

theorem sum_rows (count : UsageInput → Int) (run : String) (table : Table usageSchema) (ledger : List UsageInput)
    (lines : ∀ entry ∈ ledger, ∃ row ∈ table.rows, row.line = entry.line) :
    ((table.rows.filter fun row => row.line.runId == run).map fun row =>
      ((entriesOf ledger row.line).map count).sum).sum = usageTotal count run ledger := by
  -- the rows of a run add up to its entries
  have nodup : ((table.rows.filter fun row => row.line.runId == run).map UsageRow.line).Nodup :=
    (RowsReflect.line_nodup table).sublist (filter_sublist.map _)
  induction ledger with
  | nil => simp [entriesOf, usageTotal]
  | cons entry rest ih =>
    have split : ∀ row : UsageRow, ((entriesOf (entry :: rest) row.line).map count).sum =
        (if row.line = entry.line then count entry else 0) + ((entriesOf rest row.line).map count).sum := by
      intro row
      unfold entriesOf
      rw [filter_cons]
      by_cases same : entry.line = row.line <;> simp [same, eq_comm]
    -- the entry is counted in the one row of its line
    have own := sum_map_ite_eq ((table.rows.filter fun row => row.line.runId == run).map UsageRow.line)
      (fun _ => count entry) (fun _ => 0) entry.line
    simp only [map_const', sum_replicate, nsmul_zero, add_zero, sub_zero] at own
    rw [map_map] at own
    simp only [split]
    rw [sum_map_add, ih fun other inside => lines other (mem_cons_of_mem _ inside)]
    unfold usageTotal
    rw [filter_cons]
    refine congrArg (· + _) own |>.trans ?_
    by_cases same : entry.line.runId = run
    · obtain ⟨row, stored, line⟩ := lines entry mem_cons_self
      have listed : entry.line ∈ (table.rows.filter fun row => row.line.runId == run).map UsageRow.line :=
        line ▸ mem_map_of_mem (mem_filter.mpr ⟨stored, by simp [line, same]⟩)
      rw [count_eq_one_of_mem nodup listed, if_pos (by simpa using same)]
      simp
    · have absent : entry.line ∉ (table.rows.filter fun row => row.line.runId == run).map UsageRow.line := by
        intro listed
        obtain ⟨row, inside, line⟩ := mem_map.mp listed
        exact same (line ▸ by simpa using (mem_filter.mp inside).2)
      rw [count_eq_zero_of_not_mem absent, if_neg (by simpa using same)]
      simp

theorem Amount.sum_of (totals : List Int) (nonneg : ∀ total ∈ totals, 0 ≤ total) (fits : totals.sum ≤ maxInteger) :
    sum (totals.map of) = some (.integer totals.sum) := by
  have small : ∀ total ∈ totals, total ≤ maxInteger :=
    fun total inside => (single_le_sum nonneg total inside).trans fits
  have integers : (totals.map of).mapM integer? = some totals := by
    clear nonneg fits
    induction totals with
    | nil => rfl
    | cons total rest ih =>
      have first : of total = .integer total := if_pos (small total mem_cons_self)
      rw [map_cons, mapM_cons, first, ih fun other inside => small other (mem_cons_of_mem _ inside)]
      rfl
  unfold sum
  rw [integers]
  exact if_pos fits

theorem Amount.sum_le {amounts : List Amount} {value : Int} (summed : sum amounts = some (.integer value)) :
    value ≤ maxInteger := by
  unfold sum at summed
  split at summed
  · split at summed
    next fits =>
      cases summed
      exact fits
    next => cases summed
  · cases summed

section Command

variable {accepts : String → Bool} {foreignKeys : Bool} {tables : UsageTables} {ledger : List UsageInput}
  {input : UsageInput}

theorem acceptable_iff : input.acceptable accepts foreignKeys known ↔
    input.texts.all accepts ∧ (input.nonneg ∧ '|' ∉ input.id.toList) ∧
      (foreignKeys → known input.line.runId) := by
  unfold acceptable
  cases foreignKeys <;> simp [and_assoc]

def Clean (accepts : String → Bool) (foreignKeys : Bool) (known : String → Bool) (ledger : List UsageInput) : Prop :=
  ∀ entry ∈ ledger, entry.acceptable accepts foreignKeys known = true

theorem Clean.plain (clean : Clean accepts foreignKeys known ledger) :
    ∀ entry ∈ ledger, '|' ∉ entry.id.toList := fun entry member => (acceptable_iff.mp (clean entry member)).2.1.2

theorem Clean.nonneg (clean : Clean accepts foreignKeys known ledger) :
    ∀ entry ∈ ledger, 0 ≤ entry.inputTokens ∧ 0 ≤ entry.outputTokens := by
  intro entry member
  have counts := (acceptable_iff.mp (clean entry member)).2.1.1
  simp only [UsageInput.nonneg, Bool.and_eq_true, decide_eq_true_eq] at counts
  exact ⟨counts.1.1.1.2, counts.1.1.2⟩

theorem repeated_iff : ledger.any input.repeats ↔ ∃ entry ∈ ledger, entry.line = input.line ∧ entry.id = input.id := by
  simp [repeats]

theorem countUsage_skip {acceptable : UsageInput → Bool} (skipped : acceptable input = false) :
    countUsage acceptable ledger input = ledger := by
  simp [countUsage, skipped]

def Inserted (accepts : String → Bool) (foreignKeys : Bool) (tables : UsageTables) (ledger : List UsageInput)
    (input : UsageInput) : Except UsageError UsageTables → Prop
  | .ok stored => stored.runs = tables.runs ∧
      RowsReflect stored.usage (countUsage (acceptable accepts foreignKeys tables.knows) ledger input)
  | .error _ => countUsage (acceptable accepts foreignKeys tables.knows) ledger input = ledger ∨
      ¬ OpenedApart (countUsage (acceptable accepts foreignKeys tables.knows) ledger input)

theorem position_bar : position input.id.toList ['|'] = 0 ↔ '|' ∉ input.id.toList := by
  rw [position_eq_zero, singleton_infix_iff]

section

variable (reflects : RowsReflect tables.usage ledger)
include reflects

theorem inserted_known (clean : Clean accepts foreignKeys tables.knows ledger) (texts : input.texts.all accepts)
    (nonneg : input.nonneg) (plain : '|' ∉ input.id.toList) (stored : row ∈ tables.usage.rows)
    (line : row.line = input.line) :
    Inserted accepts foreignKeys tables ledger input
      (if position row.usageIds.toList (enclosed '|' input.id.toList) = 0 then
        .ok { tables with
          usage := tables.usage.update (fun row => decide (row.line = input.line)) (addUsage input nonneg) }
      else .ok tables) := by
  -- a usage of a line with a row is added unless its id is among those of the row
  have search := reflects.search clean.plain stored plain
  rw [line, ← repeated_iff] at search
  by_cases absent : position row.usageIds.toList (enclosed '|' input.id.toList) = 0
  · -- the run is known, since an entry of the line was acceptable
    have taken : input.acceptable accepts foreignKeys tables.knows := by
      refine acceptable_iff.mpr ⟨texts, ⟨nonneg, plain⟩, fun enforced => ?_⟩
      obtain ⟨entry, opens, same, _⟩ := reflects.opened stored
      have member : entry ∈ ledger := (mem_filter.mp (mem_of_head? opens)).1
      have known := (acceptable_iff.mp (clean entry member)).2.2 enforced
      rwa [same, line] at known
    have counted : countUsage (acceptable accepts foreignKeys tables.knows) ledger input =
        ledger ++ [input] := by
      simp [countUsage, taken, search.mp absent]
    rw [if_pos absent]
    exact ⟨rfl, counted ▸ reflects.update nonneg ⟨row, stored, line⟩⟩
  · have skipped : countUsage (acceptable accepts foreignKeys tables.knows) ledger input = ledger := by
      simp [countUsage, not_not.mp (mt search.mpr absent)]
    rw [if_neg absent]
    exact ⟨rfl, skipped.symm ▸ reflects⟩

theorem inserted_fresh (texts : input.texts.all accepts)
    (nonneg : input.nonneg) (plain : '|' ∉ input.id.toList) (fresh : entriesOf ledger input.line = [])
    (allowed : (foreignKeys && !tables.knows input.line.runId) = false) :
    Inserted accepts foreignKeys tables ledger input
      (match tables.usage.insert? input.row with
        | some usage => .ok { tables with usage := usage }
        | none => .error .constraintFailed) := by
  have new : ledger.any input.repeats = false := by
    rw [← Bool.not_eq_true, repeated_iff]
    rintro ⟨entry, member, line, _⟩
    have inside : entry ∈ entriesOf ledger input.line := mem_filter.mpr ⟨member, by simpa using line⟩
    rw [fresh] at inside
    cases inside
  have taken : input.acceptable accepts foreignKeys tables.knows := by
    refine acceptable_iff.mpr ⟨texts, ⟨nonneg, plain⟩, fun enforced => ?_⟩
    simpa [enforced] using allowed
  have counted : countUsage (acceptable accepts foreignKeys tables.knows) ledger input =
      ledger ++ [input] := by
    simp [countUsage, taken, new]
  have decided := reflects.insert?_isSome nonneg fresh
  cases inserted : tables.usage.insert? input.row with
  | some usage => exact ⟨rfl, counted ▸ reflects.insert inserted fresh⟩
  | none =>
    rw [inserted] at decided
    simp only [Option.isSome_none, Bool.false_eq_true, false_iff, not_forall] at decided
    obtain ⟨entry, opens, same⟩ := decided
    refine .inr fun apart => ?_
    rw [counted, openedApart_fresh fresh] at apart
    exact same (apart.2 entry opens)

theorem insertUsage_inserted
    (clean : Clean accepts foreignKeys tables.knows ledger) (texts : input.texts.all accepts) :
    Inserted accepts foreignKeys tables ledger input (insertUsage foreignKeys tables input) := by
  unfold insertUsage
  by_cases valid : input.nonneg ∧ position input.id.toList ['|'] = 0
  · have plain := position_bar.mp valid.2
    rw [dif_pos valid]
    cases found : tables.usage.rows.find? fun row => decide (row.line = input.line) with
    | some row =>
      exact inserted_known reflects clean texts valid.1 plain (mem_of_find?_eq_some found)
        (by simpa using find?_some found)
    | none =>
      have fresh : entriesOf ledger input.line = [] := by
        by_contra some
        obtain ⟨row, stored, line⟩ := (reflects.line_iff input.line).mpr some
        have other := find?_eq_none.mp found row stored
        simp [line] at other
      cases foreign : foreignKeys && !tables.knows input.line.runId with
      | true =>
        refine .inl (countUsage_skip ?_)
        rw [← Bool.not_eq_true, acceptable_iff]
        rintro ⟨_, _, known⟩
        simp only [Bool.and_eq_true, Bool.not_eq_true'] at foreign
        rw [known foreign.1] at foreign
        cases foreign.2
      | false => exact inserted_fresh reflects texts valid.1 plain fresh foreign
  · have skipped : countUsage (acceptable accepts foreignKeys tables.knows) ledger input = ledger := by
      refine countUsage_skip ?_
      rw [← Bool.not_eq_true, acceptable_iff]
      rintro ⟨_, both, _⟩
      exact valid ⟨both.1, position_bar.mpr both.2⟩
    rw [dif_neg valid]
    exact ⟨rfl, skipped.symm ▸ reflects⟩

end

theorem knows_update (table : Table runTokensSchema) (selected : RunTokens → Bool) (inputs outputs : Amount)
    (now : Int) (usage other : Table usageSchema) :
    knows ⟨usage, table.update selected (setTokens inputs outputs now)⟩ = knows ⟨other, table⟩ := by
  funext run
  simp only [knows, Table.update_rows, any_map]
  congr 1
  funext row
  simp only [Function.comp_apply]
  split <;> rfl

def sumsOf (tables : UsageTables) (run : String) : Option Amount × Option Amount :=
  let rows := tables.usage.rows.filter fun row => row.line.runId == run
  (Amount.sum (rows.map UsageRow.inputTokens), Amount.sum (rows.map UsageRow.outputTokens))

inductive Recorded (accepts : String → Bool) (foreignKeys : Bool) (tables : UsageTables) (input : UsageInput) :
    UsageTables → Prop
  | rejected (refused : input.texts.all accepts = false) : Recorded accepts foreignKeys tables input tables
  | failed {error : UsageError} (texts : input.texts.all accepts = true)
      (failed : insertUsage foreignKeys tables input = .error error) : Recorded accepts foreignKeys tables input tables
  | unknown {stored : UsageTables} (texts : input.texts.all accepts = true)
      (done : insertUsage foreignKeys tables input = .ok stored) (unknown : stored.knows input.line.runId = false) :
      Recorded accepts foreignKeys tables input stored
  | overflow {stored : UsageTables} (texts : input.texts.all accepts = true)
      (done : insertUsage foreignKeys tables input = .ok stored) (known : stored.knows input.line.runId = true)
      (overflow : (sumsOf stored input.line.runId).1 = none ∨ (sumsOf stored input.line.runId).2 = none) :
      Recorded accepts foreignKeys tables input stored
  | summed {stored : UsageTables} {inputs outputs : Amount} (texts : input.texts.all accepts = true)
      (done : insertUsage foreignKeys tables input = .ok stored) (known : stored.knows input.line.runId = true)
      (sums : sumsOf stored input.line.runId = (some inputs, some outputs)) :
      Recorded accepts foreignKeys tables input
        ⟨stored.usage, stored.runs.update (fun row => row.id == input.line.runId)
          (setTokens inputs outputs input.nowMs)⟩

theorem recorded (accepts : String → Bool) (foreignKeys : Bool) (tables : UsageTables) (input : UsageInput) :
    Recorded accepts foreignKeys tables input (storageRunRecordUsage accepts foreignKeys tables input).1 := by
  unfold storageRunRecordUsage
  cases texts : input.texts.all accepts with
  | false => exact .rejected texts
  | true =>
    rw [if_pos rfl]
    cases done : insertUsage foreignKeys tables input with
    | error error => exact .failed texts done
    | ok stored =>
      dsimp only
      unfold updateTokens
      dsimp only
      cases known : stored.knows input.line.runId with
      | false => exact .unknown texts done known
      | true =>
        rw [if_pos rfl]
        have first : sum _ = (sumsOf stored input.line.runId).1 := rfl
        have second : sum _ = (sumsOf stored input.line.runId).2 := rfl
        rw [first, second]
        rcases sums : sumsOf stored input.line.runId with ⟨_ | inputs, _ | outputs⟩
        · exact .overflow texts done known (.inl (congrArg Prod.fst sums))
        · exact .overflow texts done known (.inl (congrArg Prod.fst sums))
        · exact .overflow texts done known (.inr (congrArg Prod.snd sums))
        · exact .summed texts done known sums

theorem Recorded.rows {next : UsageTables} (recorded : Recorded accepts foreignKeys tables input next)
    (reflects : RowsReflect tables.usage ledger) (clean : Clean accepts foreignKeys tables.knows ledger) :
    next.knows = tables.knows ∧
    (RowsReflect next.usage (countUsage (acceptable accepts foreignKeys tables.knows) ledger input) ∨
      (next = tables ∧
        ¬ OpenedApart (countUsage (acceptable accepts foreignKeys tables.knows) ledger input))) := by
  -- the runs are the same ones, and the usage rows follow the ledger unless an id that opened another line stood in
  -- the way
  have stored_rows : ∀ {stored}, input.texts.all accepts → insertUsage foreignKeys tables input = .ok stored →
      stored.knows = tables.knows ∧ RowsReflect stored.usage
        (countUsage (acceptable accepts foreignKeys tables.knows) ledger input) := by
    intro stored texts done
    have inserted := insertUsage_inserted reflects clean texts
    rw [done] at inserted
    refine ⟨?_, inserted.2⟩
    unfold knows
    rw [inserted.1]
  cases recorded with
  | rejected refused =>
    have skipped : countUsage (acceptable accepts foreignKeys tables.knows) ledger input = ledger :=
      countUsage_skip (by simp [acceptable, refused])
    exact ⟨rfl, .inl (skipped.symm ▸ reflects)⟩
  | failed texts failed =>
    have inserted := insertUsage_inserted reflects clean texts
    rw [failed] at inserted
    rcases inserted with same | clash
    · exact ⟨rfl, .inl (same.symm ▸ reflects)⟩
    · exact ⟨rfl, .inr ⟨rfl, clash⟩⟩
  | unknown texts done _ => exact ⟨(stored_rows texts done).1, .inl (stored_rows texts done).2⟩
  | overflow texts done _ _ => exact ⟨(stored_rows texts done).1, .inl (stored_rows texts done).2⟩
  | @summed stored inputs outputs texts done _ sums =>
    exact ⟨(knows_update _ _ _ _ _ _ stored.usage).trans (stored_rows texts done).1, .inl (stored_rows texts done).2⟩

def TokensReflect (tables : UsageTables) (ledger : List UsageInput) : Prop :=
  ∀ run ∈ tables.runs.rows,
    run.inputTokens = .integer (usageTotal inputTokens run.id ledger) ∧
    run.outputTokens = .integer (usageTotal outputTokens run.id ledger)

theorem sumsOf_eq (reflects : RowsReflect tables.usage ledger)
    (clean : Clean accepts foreignKeys known ledger) (run : String)
    (fits : usageTotal inputTokens run ledger ≤ maxInteger ∧ usageTotal outputTokens run ledger ≤ maxInteger) :
    sumsOf tables run = (some (.integer (usageTotal inputTokens run ledger)),
      some (.integer (usageTotal outputTokens run ledger))) := by
  have column : ∀ (count : UsageInput → Int) (amount : UsageRow → Amount), (∀ entry ∈ ledger, 0 ≤ count entry) →
      (∀ row ∈ tables.usage.rows, amount row = .of ((entriesOf ledger row.line).map count).sum) →
      usageTotal count run ledger ≤ maxInteger →
      sum ((tables.usage.rows.filter fun row => row.line.runId == run).map amount) =
        some (.integer (usageTotal count run ledger)) := by
    intro count amount nonneg rows fits
    have total := sum_rows count run tables.usage ledger reflects.lines
    have amounts : (tables.usage.rows.filter fun row => row.line.runId == run).map amount =
        ((tables.usage.rows.filter fun row => row.line.runId == run).map fun row =>
          ((entriesOf ledger row.line).map count).sum).map of := by
      rw [map_map]
      exact map_congr_left fun row member => rows row (mem_filter.mp member).1
    rw [amounts, sum_of, total]
    · intro value member
      obtain ⟨row, _, rfl⟩ := mem_map.mp member
      refine sum_nonneg fun part inside => ?_
      obtain ⟨entry, found, rfl⟩ := mem_map.mp inside
      exact nonneg entry (mem_filter.mp found).1
    · rw [total]
      exact fits
  refine Prod.ext ?_ ?_
  · exact column _ _ (fun entry member => (clean.nonneg entry member).1)
      (fun row member => (reflects.rows row member).inputs) fits.1
  · exact column _ _ (fun entry member => (clean.nonneg entry member).2)
      (fun row member => (reflects.rows row member).outputs) fits.2

theorem usageTotal_other {acceptable : UsageInput → Bool} (count : UsageInput → Int) {run : String}
    (other : input.line.runId ≠ run) :
    usageTotal count run (countUsage acceptable ledger input) = usageTotal count run ledger := by
  rcases countUsage_cases acceptable ledger input with ⟨_, same⟩ | ⟨_, _, longer⟩
  · rw [same]
  · rw [longer, usageTotal_append]
    simp [usageTotal, other]

theorem Clean.count (clean : Clean accepts foreignKeys tables.knows ledger) : Clean accepts foreignKeys tables.knows
    (countUsage (acceptable accepts foreignKeys tables.knows) ledger input) := by
  rcases countUsage_cases (acceptable accepts foreignKeys tables.knows) ledger input with
    ⟨_, same⟩ | ⟨taken, _, longer⟩
  · rw [same]
    exact clean
  · rw [longer]
    intro entry member
    rcases mem_append.mp member with earlier | last
    · exact clean entry earlier
    · rw [mem_singleton.mp last]
      exact taken

theorem Recorded.tokens {next : UsageTables} (recorded : Recorded accepts foreignKeys tables input next)
    (before : TokensReflect tables ledger) (reflects : RowsReflect tables.usage ledger)
    (clean : Clean accepts foreignKeys tables.knows ledger)
    (apart : OpenedApart (countUsage (acceptable accepts foreignKeys tables.knows) ledger input))
    (fits : TotalsFit tables.knows (countUsage (acceptable accepts foreignKeys tables.knows) ledger input)) :
    TokensReflect next (countUsage (acceptable accepts foreignKeys tables.knows) ledger input) := by
  -- the tokens follow the ledger as long as no id opens two lines and the totals are integers of the database
  have stored_sums : ∀ {stored}, input.texts.all accepts → insertUsage foreignKeys tables input = .ok stored →
      stored.runs = tables.runs ∧ (stored.knows input.line.runId → sumsOf stored input.line.runId =
        (some (.integer (usageTotal inputTokens input.line.runId
          (countUsage (acceptable accepts foreignKeys tables.knows) ledger input))),
        some (.integer (usageTotal outputTokens input.line.runId
          (countUsage (acceptable accepts foreignKeys tables.knows) ledger input))))) := by
    intro stored texts done
    have inserted := insertUsage_inserted reflects clean texts
    rw [done] at inserted
    refine ⟨inserted.1, fun known => sumsOf_eq inserted.2 clean.count _ (fits _ ?_)⟩
    unfold knows at known ⊢
    rwa [← inserted.1]
  cases recorded with
  | rejected refused =>
    rw [countUsage_skip (by simp [acceptable, refused])]
    exact before
  | failed texts failed =>
    have inserted := insertUsage_inserted reflects clean texts
    rw [failed] at inserted
    rcases inserted with same | clash
    · rw [same]
      exact before
    · exact absurd apart clash
  | unknown texts done unknown =>
    intro run member
    have other : input.line.runId ≠ run.id := by
      rintro same
      unfold knows at unknown
      have absent := any_eq_false.mp unknown run member
      simp [same] at absent
    rw [(stored_sums texts done).1] at member
    rw [usageTotal_other _ other, usageTotal_other _ other]
    exact before run member
  | overflow texts done known overflow =>
    rw [(stored_sums texts done).2 known] at overflow
    rcases overflow with none | none <;> cases none
  | @summed stored inputs outputs texts done known sums =>
    rw [(stored_sums texts done).2 known, Prod.mk.injEq, Option.some_inj, Option.some_inj] at sums
    obtain ⟨rfl, rfl⟩ := sums
    intro run member
    rw [(stored_sums texts done).1] at member
    obtain ⟨old, present, rfl⟩ := mem_map.mp member
    by_cases own : old.id = input.line.runId
    · rw [if_pos (by simpa using own)]
      simp only [setTokens, own, and_self]
    · rw [if_neg (by simpa using own), usageTotal_other _ (Ne.symm own), usageTotal_other _ (Ne.symm own)]
      exact before old present

def Bounded (tables : UsageTables) : Prop :=
  ∀ run ∈ tables.runs.rows, ∀ value, run.inputTokens = .integer value ∨ run.outputTokens = .integer value →
    value ≤ maxInteger

theorem insertUsage_runs {stored : UsageTables} (done : insertUsage foreignKeys tables input = .ok stored) :
    stored.runs = tables.runs := by
  unfold insertUsage at done
  split at done
  · split at done
    · split at done <;> cases done <;> rfl
    · split at done
      · cases done
      · split at done <;> cases done
        rfl
  · cases done
    rfl

theorem Recorded.bounded {next : UsageTables} (recorded : Recorded accepts foreignKeys tables input next)
    (before : Bounded tables) : Bounded next := by
  cases recorded with
  | rejected => exact before
  | failed => exact before
  | unknown _ done _ | overflow _ done _ _ =>
    unfold Bounded
    rw [insertUsage_runs done]
    exact before
  | @summed stored inputs outputs _ done _ sums =>
    intro run member value column
    rw [insertUsage_runs done] at member
    obtain ⟨old, present, rfl⟩ := mem_map.mp member
    split at column
    · have first := congrArg Prod.fst sums
      have second := congrArg Prod.snd sums
      rcases column with same | same
      · exact sum_le (first.trans (congrArg some same))
      · exact sum_le (second.trans (congrArg some same))
    · exact before old present value column

end Command

section Sequences

variable (accepts : String → Bool) (foreignKeys : Bool) (runs : List (String × Int))

def ledgerOf (inputs : List UsageInput) : List UsageInput :=
  usageLedger (acceptable accepts foreignKeys (UsageTables.start runs).knows) inputs

theorem recordUsages_append_single (tables : UsageTables) (inputs : List UsageInput) (input : UsageInput) :
    recordUsages accepts foreignKeys tables (inputs ++ [input]) =
      (storageRunRecordUsage accepts foreignKeys (recordUsages accepts foreignKeys tables inputs) input).1 := by
  simp [recordUsages]

theorem start_tokens : ∀ run ∈ (start runs).runs.rows,
    run.inputTokens = .integer 0 ∧ run.outputTokens = .integer 0 := by
  intro run member
  obtain ⟨_, _, rfl⟩ := mem_map.mp ((Table.mem_insertEachOrIgnore member).resolve_left nofun)
  exact ⟨rfl, rfl⟩

theorem recordUsages_bounded (inputs : List UsageInput) :
    Bounded (recordUsages accepts foreignKeys (start runs) inputs) := by
  induction inputs using reverseRecOn with
  | nil =>
    intro run member value column
    obtain ⟨first, second⟩ := start_tokens runs run member
    rw [first, second] at column
    rcases column with same | same <;> cases same <;> decide
  | append_singleton inputs input ih =>
    rw [recordUsages_append_single]
    exact (recorded _ _ _ _).bounded ih

theorem ledgerOf_append_single (inputs : List UsageInput) (input : UsageInput) :
    ledgerOf accepts foreignKeys runs (inputs ++ [input]) =
      countUsage (acceptable accepts foreignKeys (start runs).knows)
        (ledgerOf accepts foreignKeys runs inputs) input := usageLedger_append_single inputs input

theorem ledgerOf_clean (inputs : List UsageInput) :
    Clean accepts foreignKeys (start runs).knows (ledgerOf accepts foreignKeys runs inputs) :=
  fun _ member => acceptable_of_mem member

structure Follows (inputs : List UsageInput) : Prop where
  known : (recordUsages accepts foreignKeys (UsageTables.start runs) inputs).knows = (UsageTables.start runs).knows
  rows : RowsReflect (recordUsages accepts foreignKeys (UsageTables.start runs) inputs).usage
    (ledgerOf accepts foreignKeys runs inputs)

variable {accepts foreignKeys runs}

theorem follows_nil : Follows accepts foreignKeys runs [] := ⟨rfl, nofun, nofun⟩

theorem Follows.step (follows : Follows accepts foreignKeys runs inputs) (input : UsageInput) :
    Follows accepts foreignKeys runs (inputs ++ [input]) ∨
      (recordUsages accepts foreignKeys (start runs) (inputs ++ [input]) =
          recordUsages accepts foreignKeys (start runs) inputs ∧
        ¬ OpenedApart (ledgerOf accepts foreignKeys runs (inputs ++ [input]))) := by
  have clean := ledgerOf_clean accepts foreignKeys runs inputs
  rw [← follows.known] at clean
  have next := (recorded accepts foreignKeys (recordUsages accepts foreignKeys (start runs) inputs) input).rows
    follows.rows clean
  rw [follows.known, ← recordUsages_append_single, ← ledgerOf_append_single] at next
  obtain ⟨known, rows | clash⟩ := next
  · exact .inl ⟨known, rows⟩
  · exact .inr clash

theorem follows_of_apart (apart : OpenedApart (ledgerOf accepts foreignKeys runs inputs)) :
    Follows accepts foreignKeys runs inputs := by
  induction inputs using reverseRecOn with
  | nil => exact follows_nil
  | append_singleton inputs input ih =>
    have before := ih (apart.begins (usageLedger_begins inputs [input]))
    exact (before.step input).resolve_right fun clash => clash.2 apart

theorem TotalsFit.begins {later : List UsageInput}
    (fits : TotalsFit known (ledgerOf accepts foreignKeys runs (inputs ++ later))) :
    TotalsFit known (ledgerOf accepts foreignKeys runs inputs) := by
  obtain ⟨more, longer⟩ : ledgerOf accepts foreignKeys runs inputs <+:
    ledgerOf accepts foreignKeys runs (inputs ++ later) := usageLedger_begins inputs later
  have nonneg : ∀ entry ∈ more, 0 ≤ entry.inputTokens ∧ 0 ≤ entry.outputTokens := fun entry inside =>
    (ledgerOf_clean accepts foreignKeys runs (inputs ++ later)).nonneg entry (longer ▸ mem_append_right _ inside)
  rw [← longer] at fits
  intro run member
  have total := fits run member
  rw [usageTotal_append, usageTotal_append] at total
  have inputs := usageTotal_nonneg run fun entry inside => (nonneg entry inside).1
  have outputs := usageTotal_nonneg run fun entry inside => (nonneg entry inside).2
  omega

theorem tokens_of_fits (apart : OpenedApart (ledgerOf accepts foreignKeys runs inputs))
    (fits : TotalsFit (start runs).knows (ledgerOf accepts foreignKeys runs inputs)) :
    TokensReflect (recordUsages accepts foreignKeys (start runs) inputs)
      (ledgerOf accepts foreignKeys runs inputs) := by
  induction inputs using reverseRecOn with
  | nil => exact start_tokens runs
  | append_singleton inputs input ih =>
    have earlier := apart.begins (usageLedger_begins inputs [input])
    have follows := follows_of_apart earlier
    have before := ih earlier fits.begins
    have clean := ledgerOf_clean accepts foreignKeys runs inputs
    rw [← follows.known] at clean
    rw [ledgerOf_append_single, ← follows.known] at apart fits ⊢
    rw [recordUsages_append_single]
    exact (recorded _ _ _ _).tokens before follows.rows clean apart fits

theorem follows_of_accounts
    (accounts : ∀ earlier, earlier <+: inputs → Accounts
      (recordUsages accepts foreignKeys (start runs) earlier) (ledgerOf accepts foreignKeys runs earlier)) :
    Follows accepts foreignKeys runs inputs := by
  induction inputs using reverseRecOn with
  | nil => exact follows_nil
  | append_singleton inputs input ih =>
    have before := ih fun earlier shorter =>
      accounts earlier (shorter.trans (prefix_append inputs [input]))
    refine (before.step input).resolve_right ?_
    rintro ⟨unchanged, clash⟩
    -- the ledger counts the usage, which the tables did not take
    have counted := countUsage_cases (acceptable accepts foreignKeys (start runs).knows)
      (ledgerOf accepts foreignKeys runs inputs) input
    rw [← ledgerOf_append_single] at counted
    rcases counted with ⟨_, same⟩ | ⟨taken, new, longer⟩
    · rw [same] at clash
      exact clash before.rows.openedApart
    · have plain := (acceptable_iff.mp taken).2.1.2
      have ids := (accounts _ prefix_rfl).ids input.line input.id plain
      rw [unchanged, longer] at ids
      have held := ids.mpr ⟨input, by simp, rfl, rfl⟩
      rw [before.rows.holds_iff (ledgerOf_clean accepts foreignKeys runs inputs).plain _ _ plain, ← repeated_iff,
        new] at held
      cases held

theorem usage_accounts_iff (accepts : String → Bool) (foreignKeys : Bool) (runs : List (String × Int))
    (inputs : List UsageInput) :
    (∀ earlier, earlier <+: inputs → Accounts
      (recordUsages accepts foreignKeys (UsageTables.start runs) earlier) (ledgerOf accepts foreignKeys runs earlier)) ↔
    OpenedApart (ledgerOf accepts foreignKeys runs inputs) ∧
      TotalsFit (UsageTables.start runs).knows (ledgerOf accepts foreignKeys runs inputs) := by
  -- a line opened twice under one usage id, or a total out of range, is what goes wrong
  constructor
  · intro accounts
    have follows := follows_of_accounts accounts
    refine ⟨follows.rows.openedApart, fun run known => ?_⟩
    rw [← follows.known] at known
    obtain ⟨row, member, same⟩ := List.any_eq_true.mp known
    have same : row.id = run := by simpa using same
    have tokens := (accounts inputs List.prefix_rfl).tokens row member
    have bounded := recordUsages_bounded accepts foreignKeys runs inputs row member
    rw [same] at tokens
    exact ⟨bounded _ (.inl tokens.1), bounded _ (.inr tokens.2)⟩
  · rintro ⟨apart, fits⟩ earlier ⟨later, rfl⟩
    have first := apart.begins (usageLedger_begins earlier later)
    exact ⟨tokens_of_fits first fits.begins,
      (follows_of_apart first).rows.holds_iff (ledgerOf_clean accepts foreignKeys runs earlier).plain⟩

end Sequences

theorem usage_of_second_model_lost : let first : UsageInput := ⟨"u", ⟨"run", "provider", "small"⟩, 1, 5, 7, 0, 0, 0⟩
    let second : UsageInput := ⟨"u", ⟨"run", "provider", "large"⟩, 1, 2, 3, 0, 0, 0⟩
    let tables := recordUsages (fun _ => true) true (.start [("run", 0)]) [first, second]
    tables.runs.rows.map RunTokens.inputTokens = [.integer 5] ∧
    ledgerOf (fun _ => true) true [("run", 0)] [first, second] = [first, second] ∧
    usageTotal inputTokens "run" [first, second] = 7 := by
  refine ⟨by decide +kernel, by decide +kernel, by decide⟩

end RustScriptAgent.Storage
