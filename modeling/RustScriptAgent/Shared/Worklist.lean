import Mathlib.Data.List.Nodup
import Mathlib.Tactic.Common

namespace Worklists

open List

variable {Key Failure : Type}

structure Links (Key Failure : Type) where
  known : List Key
  successors : Key → Except Failure (List Key)
  answers : ∀ key targets, successors key = .ok targets → key ∈ known

namespace Links

variable (links : Links Key Failure) {start : Key} {visited queue final : List Key}

inductive Reach (start : Key) : Key → Prop
  | start : Reach start start
  | step {key target : Key} {targets : List Key} (reached : Reach start key)
      (ok : links.successors key = .ok targets) (member : target ∈ targets) : Reach start target

structure Halfway (start : Key) (visited queue : List Key) : Prop where
  nodup : visited.Nodup
  reached : ∀ key ∈ visited ++ queue, links.Reach start key
  closed : ∀ key ∈ visited, ∃ targets, links.successors key = .ok targets ∧ targets ⊆ visited ++ queue
  started : start ∈ visited ++ queue

variable {links}

theorem halfway_start (start : Key) : links.Halfway start [] [start] := by
  refine ⟨nodup_nil, fun key placed => ?_, by simp, by simp⟩
  obtain rfl : key = start := by simpa using placed
  exact .start

theorem Halfway.mem_iff (done : links.Halfway start final []) (key : Key) : key ∈ final ↔ links.Reach start key := by
  refine ⟨fun member => done.reached key (by simpa using member), fun reached => ?_⟩
  induction reached with
  | start => simpa using done.started
  | step _ ok member ih =>
    obtain ⟨targets, found, inside⟩ := done.closed _ ih
    rw [ok] at found
    cases found
    simpa using inside member

theorem Halfway.skip {key : Key} (halfway : links.Halfway start visited (key :: queue)) (old : key ∈ visited) :
    links.Halfway start visited queue := by
  have fewer : visited ++ key :: queue ⊆ visited ++ queue := by
    intro other
    simp only [mem_append, mem_cons]
    rintro (visited | rfl | waiting) <;> simp [*]
  refine ⟨halfway.nodup, fun other placed => halfway.reached other ?_, fun other member => ?_, fewer halfway.started⟩
  · exact mem_append.mpr ((mem_append.mp placed).imp_right (mem_cons_of_mem key))
  · obtain ⟨targets, ok, inside⟩ := halfway.closed other member
    exact ⟨targets, ok, fun _ among => fewer (inside among)⟩

variable [DecidableEq Key]

def unvisited (visited targets : List Key) : List Key := targets.filter (· ∉ visited)

theorem unvisited_lt {known : List Key} {key : Key} (member : key ∈ known) (new : key ∉ visited) :
    (unvisited (key :: visited) known).length < (unvisited visited known).length := by
  have fewer : unvisited (key :: visited) known = (unvisited visited known).filter (· ≠ key) := by
    simp [unvisited, filter_filter]
  rw [fewer, length_filter_lt_length_iff_exists]
  exact ⟨key, by simp [unvisited, member, new], by simp⟩

theorem Halfway.visit {key : Key} {targets : List Key} (halfway : links.Halfway start visited (key :: queue))
    (new : key ∉ visited) (ok : links.successors key = .ok targets) :
    links.Halfway start (key :: visited) (queue ++ unvisited (key :: visited) targets) := by
  have reached := halfway.reached key (by simp)
  have more : visited ++ key :: queue ⊆ key :: visited ++ (queue ++ unvisited (key :: visited) targets) := by
    intro other
    simp only [mem_append, mem_cons]
    tauto
  refine ⟨halfway.nodup.cons new, fun other placed => ?_, fun other member => ?_, more halfway.started⟩
  · by_cases before : other ∈ visited ++ key :: queue
    · exact halfway.reached other before
    · refine reached.step ok (?_ : other ∈ targets)
      simp_all [unvisited]
  · rcases mem_cons.mp member with rfl | visited
    · refine ⟨targets, ok, fun target among => ?_⟩
      simp only [unvisited, mem_append, mem_filter, among, true_and, decide_eq_true_eq]
      tauto
    · obtain ⟨others, found, inside⟩ := halfway.closed other visited
      exact ⟨others, found, fun _ among => more (inside among)⟩

variable (links) in
def close (visited queue : List Key) : Except Failure (List Key) :=
  match queue with
  | [] => .ok visited
  | key :: rest =>
    if _new : key ∈ visited then close visited rest
    else
      match _ok : links.successors key with
      | .error failure => .error failure
      | .ok targets => close (key :: visited) (rest ++ unvisited (key :: visited) targets)
termination_by ((unvisited visited links.known).length, queue.length)
decreasing_by
  · exact .right _ (Nat.lt_succ_self _)
  · exact .left _ _ (unvisited_lt (links.answers key targets _ok) _new)

theorem close_spec (halfway : links.Halfway start visited queue) :
    (∀ final, links.close visited queue = .ok final → links.Halfway start final []) ∧
      ∀ failure, links.close visited queue = .error failure →
        ∃ key, links.Reach start key ∧ links.successors key = .error failure := by
  fun_induction close links visited queue with
  | case1 visited => simpa using halfway
  | case2 visited key rest old ih => exact ih (halfway.skip old)
  | case3 visited key rest new failure failed =>
    refine ⟨nofun, fun other same => ⟨key, halfway.reached key (by simp), ?_⟩⟩
    cases same
    exact failed
  | case4 visited key rest new targets ok ih => exact ih (halfway.visit new ok)

theorem close_congr {other : Links Key Failure}
    (agree : ∀ key, links.Reach start key → other.successors key = links.successors key)
    (halfway : links.Halfway start visited queue) : other.close visited queue = links.close visited queue := by
  fun_induction close links visited queue with
  | case1 visited => rw [close]
  | case2 visited key rest old ih => rw [close, dif_pos old, ih (halfway.skip old)]
  | case3 visited key rest new failure failed =>
    rw [close, dif_neg new]
    split <;> simp_all [agree key (halfway.reached key (by simp))]
  | case4 visited key rest new targets ok ih =>
    rw [close, dif_neg new, ← ih (halfway.visit new ok)]
    split <;> simp_all [agree key (halfway.reached key (by simp))]

end Links

end Worklists
