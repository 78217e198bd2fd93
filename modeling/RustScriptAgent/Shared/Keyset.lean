import Mathlib.Algebra.Order.Ring.Int
import Mathlib.Data.List.Perm.Basic
import Mathlib.Data.List.Sort

namespace Keyset

open List

structure Pager where
  size : Nat
  cut : Nat → Nat
  sized : 0 < size
  positive : ∀ turn, 0 < cut turn

variable {Row : Type}

def Pager.page (pager : Pager) (turn : Nat) (found : List Row) : List Row × Bool :=
  let asked := found.take (pager.size + 1)
  let page := asked.take (min (pager.cut turn) pager.size)
  (page, decide (page.length < asked.length))

section Pages

variable (pager : Pager) (turn : Nat) (found : List Row)

theorem page_whole (uncut : (pager.page turn found).2 = false) : (pager.page turn found).1 = found := by
  have long : ¬ (found.take (pager.size + 1)).length > min (pager.cut turn) pager.size := by
    intro exceeds
    unfold Pager.page at uncut
    simp only [decide_eq_false_iff_not, length_take] at uncut exceeds
    omega
  rw [length_take] at long
  have fits : found.length ≤ min (pager.cut turn) pager.size := by omega
  unfold Pager.page
  dsimp only
  rw [take_of_length_le (by omega : found.length ≤ pager.size + 1), take_of_length_le fits]

theorem page_cut (cut : (pager.page turn found).2) :
    ∃ count, 0 < count ∧ count < found.length ∧ (pager.page turn found).1 = found.take count := by
  have positive := pager.positive turn
  have sized := pager.sized
  refine ⟨min (pager.cut turn) pager.size, by omega, ?_, ?_⟩
  · unfold Pager.page at cut
    simp only [decide_eq_true_eq, length_take] at cut
    omega
  · unfold Pager.page
    dsimp only
    rw [take_take, Nat.min_eq_left (by omega)]

end Pages

variable (key : Row → Int)

def rest (rows : List Row) (cursor : Int) : List Row := rows.filter fun row => decide (cursor < key row)

def advance (cursor : Int) (page : List Row) : Int := (page.getLast?.map key).getD cursor

def Ascending (rows : List Row) : Prop := rows.Pairwise fun a b => key a < key b

variable {key} {rows : List Row} {cursor : Int}

theorem rest_eq_self (above : ∀ row ∈ rows, cursor < key row) : rest key rows cursor = rows := by
  refine filter_eq_self.mpr fun row member => ?_
  simpa using above row member

theorem rest_narrowed {later : Int} (above : cursor < later) : rest key rows later = rest key
    (rest key rows cursor) later := by
  unfold rest
  rw [filter_filter]
  refine filter_congr fun row _ => ?_
  by_cases after : later < key row
  · have beyond : cursor < key row := Int.lt_trans above after
    simp [after, beyond]
  · simp [after]

theorem rest_advance (ascending : Ascending key rows) {count : Nat} (positive : 0 < count)
    (inside : count ≤ (rest key rows cursor).length) :
    rest key rows (advance key cursor ((rest key rows cursor).take count)) = (rest key rows cursor).drop count := by
  -- what is after the last of some first rows is what follows them
  have sorted : Ascending key (rest key rows cursor) := ascending.sublist filter_sublist
  have nonempty : (rest key rows cursor).take count ≠ [] := by
    rw [Ne, take_eq_nil_iff]
    rintro (rfl | none)
    · exact Nat.lt_irrefl 0 positive
    · rw [none, length_nil] at inside
      omega
  obtain ⟨first, last, split⟩ : ∃ first last, (rest key rows cursor).take count = first ++ [last] :=
    ⟨_, _, (dropLast_append_getLast nonempty).symm⟩
  have cursor_after : advance key cursor ((rest key rows cursor).take count) = key last := by
    simp [advance, split]
  have whole : rest key rows cursor = first ++ last :: (rest key rows cursor).drop count := by
    conv_lhs => rw [← take_append_drop count (rest key rows cursor), split]
    simp
  have above : cursor < key last := by
    have member : last ∈ rest key rows cursor := by
      rw [whole]
      simp
    simpa using (mem_filter.mp member).2
  rw [cursor_after, rest_narrowed above]
  generalize (rest key rows cursor).drop count = tail at whole ⊢
  rw [whole] at sorted ⊢
  obtain ⟨_, after, before⟩ := pairwise_append.mp sorted
  have earlier : rest key first (key last) = [] := by
    refine filter_eq_nil_iff.mpr fun row member => ?_
    have := before row member last mem_cons_self
    simp
    omega
  have later : rest key tail (key last) = tail := rest_eq_self (pairwise_cons.mp after).1
  unfold rest at earlier later ⊢
  rw [filter_append, earlier, nil_append, filter_cons_of_neg (by simp), later]

theorem rest_shorter {page : List Row} (nonempty : page ≠ []) (part : ∀ row ∈ page, row ∈ rest key rows cursor) :
    (rest key rows (advance key cursor page)).length < (rest key rows cursor).length := by
  have last : page.getLast nonempty ∈ rest key rows cursor := part _ (getLast_mem nonempty)
  have cursor_after : advance key cursor page = key (page.getLast nonempty) := by
    simp [advance, getLast?_eq_getLast_of_ne_nil nonempty]
  have above : cursor < key (page.getLast nonempty) := by simpa using (mem_filter.mp last).2
  rw [cursor_after, rest_narrowed above]
  refine length_filter_lt_length_iff_exists.mpr ⟨_, last, ?_⟩
  simp

variable (key) in
def ordered (rows : List Row) : List Row := rows.insertionSort fun a b => key a ≤ key b

theorem ordered_perm (rows : List Row) : (ordered key rows).Perm rows := perm_insertionSort _ _

theorem ordered_ascending (apart : rows.Pairwise fun a b => key a ≠ key b) : Ascending key (ordered key rows) := by
  have total : Std.Total (fun a b : Row => key a ≤ key b) := ⟨fun a b => Int.le_total (key a) (key b)⟩
  have transitive : IsTrans Row (fun a b => key a ≤ key b) := ⟨fun _ _ _ => Int.le_trans⟩
  have sorted : (ordered key rows).Pairwise fun a b => key a ≤ key b := pairwise_insertionSort _ _
  have distinct : (ordered key rows).Pairwise fun a b => key a ≠ key b :=
    (ordered_perm rows).symm.pairwise apart fun differ => differ.symm
  exact (sorted.and distinct).imp fun both => lt_of_le_of_ne both.1 both.2

section Owners

variable {Id : Type} [DecidableEq Id] (owner : Row → Id)

variable (key) in
def owned (rows : List Row) (id : Id) : List Row := ordered key (rows.filter fun row => decide (owner row = id))

theorem owned_ascending (apart : rows.Pairwise fun a b => owner a = owner b → key a ≠ key b) (id : Id) :
    Ascending key (owned key owner rows id) := by
  refine ordered_ascending ?_
  rw [pairwise_filter]
  refine apart.imp fun differ first second => differ ?_
  rw [of_decide_eq_true first, of_decide_eq_true second]

theorem mem_owned {id : Id} {row : Row} : row ∈ owned key owner rows id ↔ row ∈ rows ∧ owner row = id := by
  rw [owned, (ordered_perm _).mem_iff, mem_filter, decide_eq_true_eq]

theorem flatMap_filter_perm (ids : List Id) (rows : List Row) (distinct : ids.Nodup)
    (covered : ∀ row ∈ rows, owner row ∈ ids) :
    (ids.flatMap fun id => rows.filter fun row => decide (owner row = id)).Perm rows := by
  induction ids generalizing rows with
  | nil =>
    have none : rows = [] := eq_nil_iff_forall_not_mem.mpr fun row member => nomatch covered row member
    simp [none]
  | cons id ids ih =>
    obtain ⟨fresh, distinct⟩ := nodup_cons.mp distinct
    -- the rows of the later owners are those that are left without the first one's
    have others : (ids.flatMap fun later => rows.filter fun row => decide (owner row = later)) =
        ids.flatMap fun later =>
          (rows.filter fun row => !decide (owner row = id)).filter fun row => decide (owner row = later) := by
      refine flatMap_congr fun later listed => ?_
      rw [filter_filter]
      refine filter_congr fun row _ => ?_
      by_cases mine : owner row = later
      · have other : later ≠ id := fun same => fresh (same ▸ listed)
        simp [mine, other]
      · simp [mine]
    have left := ih (rows.filter fun row => !decide (owner row = id)) distinct (by
      intro row member
      obtain ⟨listed, other⟩ := mem_filter.mp member
      exact (mem_cons.mp (covered row listed)).resolve_left (by simpa using other))
    rw [flatMap_cons, others]
    exact (left.append_left _).trans (filter_append_perm _ rows)

theorem flatMap_owned_perm (ids : List Id) (rows : List Row) (distinct : ids.Nodup)
    (covered : ∀ row ∈ rows, owner row ∈ ids) : (ids.flatMap (owned key owner rows)).Perm rows :=
  (List.Perm.flatMap_left ids fun _ _ => ordered_perm _).trans (flatMap_filter_perm owner ids rows distinct covered)

end Owners

structure Drained (Row : Type) where
  rows : List Row
  overload : Bool
  turn : Nat

variable (key) in
def drain (pager : Pager) (limit : Int) (rows : List Row) (cursor : Int) (taken : List Row)
    (turn : Nat) : Drained Row :=
  let page := pager.page turn (rest key rows cursor)
  let read := taken ++ page.1
  if limit < read.length then ⟨read, true, turn + 1⟩
  else if cut : page.2 = true then drain pager limit rows (advance key cursor page.1) read (turn + 1)
  else ⟨read, false, turn + 1⟩
termination_by (rest key rows cursor).length
decreasing_by
  obtain ⟨count, positive, inside, first⟩ := page_cut pager turn (rest key rows cursor) cut
  have nonempty : (pager.page turn (rest key rows cursor)).1 ≠ [] := by
    rw [first, Ne, List.take_eq_nil_iff]
    rintro (rfl | none)
    · exact Nat.lt_irrefl 0 positive
    · simp [none] at inside
  exact rest_shorter nonempty fun row member => List.mem_of_mem_take (first ▸ member)

variable (key) in
def drainAll (pager : Pager) (limit cursor : Int) : List (List Row) → List Row → Nat → Drained Row
  | [], taken, turn => ⟨taken, false, turn⟩
  | rows :: others, taken, turn =>
    let drained := drain key pager limit rows cursor taken turn
    if drained.overload then drained else drainAll pager limit cursor others drained.rows drained.turn

structure Drained.Whole (drained : Drained Row) (limit : Int) (rows : List Row) : Prop where
  overload_iff : drained.overload = true ↔ limit < rows.length
  complete : drained.overload = false → drained.rows = rows

theorem drain_whole (pager : Pager) (limit : Int) (ascending : Ascending key rows) (cursor : Int) (taken : List Row)
    (turn : Nat) : (drain key pager limit rows cursor taken turn).Whole limit (taken ++ rest key rows cursor) := by
  fun_induction drain key pager limit rows cursor taken turn with
  | case1 cursor taken turn page read above =>
    -- the rows read are only a part, so the whole is above the limit as well
    have part : read.length ≤ (taken ++ rest key rows cursor).length := by
      simp only [read, page, Pager.page, length_append, length_take]
      omega
    exact ⟨⟨fun _ => by omega, fun _ => rfl⟩, nofun⟩
  | case2 cursor taken turn page read below cut ih =>
    obtain ⟨count, positive, inside, first⟩ := page_cut pager turn (rest key rows cursor) cut
    have same : read ++ rest key rows (advance key cursor page.1) = taken ++ rest key rows cursor := by
      simp only [read, page]
      rw [first, rest_advance ascending positive (Nat.le_of_lt inside), append_assoc, take_append_drop]
    rwa [same] at ih
  | case3 cursor taken turn page read below uncut =>
    have all : read = taken ++ rest key rows cursor := by
      simp only [read, page]
      rw [page_whole pager turn _ (by simpa using uncut)]
    rw [← all]
    exact ⟨⟨nofun, fun above => absurd above below⟩, fun _ => rfl⟩

theorem drainAll_whole (pager : Pager) (limit cursor : Int) (groups : List (List Row))
    (ascending : ∀ rows ∈ groups, Ascending key rows) (taken : List Row) (turn : Nat) (within : taken.length ≤ limit) :
    (drainAll key pager limit cursor groups taken turn).Whole limit
      (taken ++ groups.flatMap fun rows => rest key rows cursor) := by
  induction groups generalizing taken turn with
  | nil =>
    simp only [drainAll, flatMap_nil, append_nil]
    exact ⟨⟨nofun, fun above => by omega⟩, fun _ => rfl⟩
  | cons rows others ih =>
    have here := drain_whole pager limit (ascending rows mem_cons_self) cursor taken turn
    simp only [drainAll]
    generalize drain key pager limit rows cursor taken turn = drained at here ⊢
    rw [flatMap_cons, ← append_assoc]
    cases overload : drained.overload with
    | true =>
      have above := here.overload_iff.mp overload
      refine ⟨⟨fun _ => ?_, fun _ => by simp [overload]⟩, fun none => by simp [overload] at none⟩
      rw [length_append]
      omega
    | false =>
      have read := here.complete overload
      have below : ¬ limit < (taken ++ rest key rows cursor).length := by
        rw [← here.overload_iff, overload]
        nofun
      rw [if_neg nofun, ← read]
      refine ih (fun rows member => ascending rows (mem_cons_of_mem _ member)) _ _ ?_
      rw [read]
      omega

end Keyset
