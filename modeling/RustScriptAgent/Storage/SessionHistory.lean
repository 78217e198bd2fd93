import RustScriptAgent.Storage.CompactionOutcome

namespace RustScriptAgent.Storage

open Relational Sequences CompactionRow

variable {row : MessageRow}

structure SessionHistory where
  messages : List MessageRow
  compactions : List CompactionRow
  generation : Option Int

def Database.compactionsOf (db : Database) (session : String) : List CompactionRow :=
  db.compactions.rows.filter fun row => row.sessionId == session

def Database.sessionHistory (db : Database) (session : String) : SessionHistory where
  messages := db.messagesOf session
  compactions := db.compactionsOf session
  generation := db.generationOf session

namespace CompactionRow

def Spans (row : CompactionRow) (ordinal : Int) : Prop :=
  row.sourceStartOrdinal ≤ ordinal ∧ ordinal ≤ row.sourceEndOrdinal

instance decidableSpans (row : CompactionRow) (ordinal : Int) : Decidable (row.Spans ordinal) :=
  inferInstanceAs (Decidable (_ ∧ _))

theorem isCommitted_iff {row : CompactionRow} : row.isCommitted ↔ row.state = .committed := by
  simp [isCommitted]

end CompactionRow

namespace SessionHistory

def commits (history : SessionHistory) : Nat := history.compactions.countP isCommitted

structure Integrity (initial : Int) (history : SessionHistory) : Prop where
  front : ∀ row ∈ history.messages, ∀ later ∈ history.messages, later.compacted = true →
    row.ordinal ≤ later.ordinal → row.compacted = true
  spanned : ∀ row ∈ history.messages, row.compacted = true ↔
    ∃ compaction ∈ history.compactions, compaction.state = .committed ∧ compaction.Spans row.ordinal
  generation : history.generation = some (initial + history.commits)

structure Next (history : SessionHistory) (first last : Int) : Prop where
  ordered : first ≤ last
  present : ∃ row ∈ history.messages, row.ordinal = first
  split : ∀ row ∈ history.messages, row.compacted = true ↔ row.ordinal < first

structure Ready (initial : Int) (history : SessionHistory) (generation first last : Int) : Prop where
  due : generation ≤ initial + history.commits + 1
  next : generation = initial + history.commits + 1 → history.Next first last

structure Sound (initial : Int) (history : SessionHistory) : Prop extends Integrity initial history where
  positive : ∀ row ∈ history.messages, 0 < row.ordinal
  ends : ∀ compaction ∈ history.compactions, compaction.state = .committed →
    ∃ row ∈ history.messages, row.ordinal = compaction.sourceEndOrdinal
  past : ∀ compaction ∈ history.compactions, compaction.state = .committed →
    compaction.generation ≤ initial + history.commits
  waiting : ∀ compaction ∈ history.compactions, compaction.state = .pending →
    history.Ready initial compaction.generation compaction.sourceStartOrdinal compaction.sourceEndOrdinal

structure Extends (history next : SessionHistory) : Prop where
  messages : ∃ new, next.messages = history.messages ++ new ∧ ∀ row ∈ new, row.compacted = false ∧
    (∀ old ∈ history.messages, old.ordinal < row.ordinal) ∧ (history.messages = [] → 0 < row.ordinal)
  generation : ∀ generation, history.generation = some generation → next.generation = some generation
  committed : next.compactions.filter isCommitted =
    history.compactions.filter isCommitted
  pending : ∀ row ∈ next.compactions, row.state = .pending → row ∈ history.compactions

structure Opens (history next : SessionHistory) (target first last : Int) : Prop where
  messages : next.messages = history.messages
  generation : next.generation = history.generation
  committed : next.compactions.filter isCommitted =
    history.compactions.filter isCommitted
  pending : ∀ row ∈ next.compactions, row.state = .pending → row ∈ history.compactions ∨
    row.generation = target ∧ row.sourceStartOrdinal = first ∧ row.sourceEndOrdinal = last

structure Commits (history next : SessionHistory) (pending committed : CompactionRow) : Prop where
  waiting : pending ∈ history.compactions ∧ pending.state = .pending
  same : committed.generation = pending.generation ∧ committed.sourceStartOrdinal = pending.sourceStartOrdinal ∧
    committed.sourceEndOrdinal = pending.sourceEndOrdinal ∧ committed.state = .committed
  last : ∃ row ∈ history.messages, row.ordinal = pending.sourceEndOrdinal
  generation : history.generation = some (pending.generation - 1) ∧ next.generation = some pending.generation
  messages : next.messages = history.messages.map fun row =>
    if pending.Spans row.ordinal then markCompacted.apply row else row
  landed : committed ∈ next.compactions
  kept : ∀ row ∈ history.compactions, row.state = .committed → row ∈ next.compactions
  only : ∀ row ∈ next.compactions, row.state ≠ .failed → row ∈ history.compactions ∨ row = committed
  counted : next.commits = history.commits + 1

variable {initial generation first last : Int} {history next : SessionHistory}

section Committed

variable (same : next.compactions.filter isCommitted =
  history.compactions.filter isCommitted)
include same

theorem commits_congr : next.commits = history.commits := by
  rw [commits, commits, List.countP_eq_length_filter, List.countP_eq_length_filter, same]

theorem committed_congr (row : CompactionRow) :
    row ∈ next.compactions ∧ row.state = .committed ↔ row ∈ history.compactions ∧ row.state = .committed := by
  rw [← isCommitted_iff, ← List.mem_filter, same, List.mem_filter]

theorem spanned_congr (ordinal : Int) :
    (∃ row ∈ next.compactions, row.state = .committed ∧ row.Spans ordinal) ↔
      ∃ row ∈ history.compactions, row.state = .committed ∧ row.Spans ordinal := by
  simp only [← and_assoc, committed_congr same]

theorem past_congr (sound : history.Sound initial) : ∀ row ∈ next.compactions, row.state = .committed →
    row.generation ≤ initial + next.commits := by
  intro row stored state
  rw [commits_congr same]
  exact sound.past row ((committed_congr same row).mp ⟨stored, state⟩).1 state

theorem ends_congr (sound : history.Sound initial) : ∀ row ∈ next.compactions, row.state = .committed →
    ∃ message ∈ history.messages, message.ordinal = row.sourceEndOrdinal :=
  fun row stored state => sound.ends row ((committed_congr same row).mp ⟨stored, state⟩).1 state

end Committed

namespace Extends

section

variable (step : history.Extends next)
include step

theorem commits_eq : next.commits = history.commits := commits_congr step.committed

theorem message_mono (member : row ∈ history.messages) : row ∈ next.messages := by
  obtain ⟨new, rows, _⟩ := step.messages
  rw [rows]
  exact List.mem_append_left new member

theorem message_cases (member : row ∈ next.messages) :
    row ∈ history.messages ∨ row.compacted = false ∧ (∀ old ∈ history.messages, old.ordinal < row.ordinal) ∧
      (history.messages = [] → 0 < row.ordinal) := by
  obtain ⟨new, rows, fresh⟩ := step.messages
  rw [rows, List.mem_append] at member
  exact member.imp_right (fresh row)

theorem keeps_next (range : history.Next first last) : next.Next first last where
  ordered := range.ordered
  present := by
    obtain ⟨row, member, ordinal⟩ := range.present
    exact ⟨row, step.message_mono member, ordinal⟩
  split := by
    intro row member
    rcases step.message_cases member with old | ⟨active, behind, _⟩
    · exact range.split row old
    · obtain ⟨start, present, ordinal⟩ := range.present
      have := behind start present
      simp only [active, Bool.false_eq_true, false_iff]
      omega

theorem ready (plan : history.Ready initial generation first last) :
    next.Ready initial generation first last where
  due := by rw [step.commits_eq]; exact plan.due
  next same := step.keeps_next (plan.next (by rwa [step.commits_eq] at same))

theorem sound (sound : history.Sound initial) : next.Sound initial where
  front := by
    intro row member later present compacted order
    rcases step.message_cases present with old | ⟨active, _⟩
    · rcases step.message_cases member with before | ⟨_, behind, _⟩
      · exact sound.front row before later old compacted order
      · have := behind later old
        omega
    · simp [active] at compacted
  spanned := by
    intro row member
    rcases step.message_cases member with old | ⟨active, behind, _⟩
    · rw [sound.spanned row old, spanned_congr step.committed]
    · -- a new message is behind the last message of every committed range
      simp only [active, Bool.false_eq_true, false_iff, not_exists, not_and]
      intro compaction stored state spans
      obtain ⟨stop, present, ordinal⟩ := ends_congr step.committed sound compaction stored state
      have beyond := behind stop present
      have within := spans.2
      omega
  generation := by
    rw [step.commits_eq]
    exact step.generation _ sound.generation
  positive := by
    intro row member
    rcases step.message_cases member with old | ⟨_, behind, alone⟩
    · exact sound.positive row old
    · by_cases empty : history.messages = []
      · exact alone empty
      · obtain ⟨old, present⟩ := List.exists_mem_of_ne_nil _ empty
        exact (sound.positive old present).trans (behind old present)
  ends := by
    intro compaction stored state
    obtain ⟨row, member, ordinal⟩ := ends_congr step.committed sound compaction stored state
    exact ⟨row, step.message_mono member, ordinal⟩
  past := past_congr step.committed sound
  waiting := by
    intro compaction stored state
    exact step.ready (sound.waiting compaction (step.pending compaction stored state) state)

end

end Extends

namespace Opens

section

variable (step : history.Opens next generation first last)
include step

theorem commits_eq : next.commits = history.commits := commits_congr step.committed

theorem ready_iff {target start stop : Int} :
    next.Ready initial target start stop ↔ history.Ready initial target start stop := by
  have same : next.Next start stop ↔ history.Next start stop := by
    constructor <;> rintro ⟨ordered, present, split⟩
    · exact ⟨ordered, step.messages ▸ present, step.messages ▸ split⟩
    · exact ⟨ordered, step.messages ▸ present, step.messages ▸ split⟩
  constructor <;> rintro ⟨due, onward⟩
  · rw [step.commits_eq] at due onward
    exact ⟨due, fun now => same.mp (onward now)⟩
  · rw [← step.commits_eq] at due onward
    exact ⟨due, fun now => same.mpr (onward now)⟩

theorem sound (sound : history.Sound initial)
    (plan : history.Ready initial generation first last) : next.Sound initial where
  front := by rw [step.messages]; exact sound.front
  spanned := by
    intro row member
    rw [step.messages] at member
    rw [sound.spanned row member, spanned_congr step.committed]
  generation := by rw [step.generation, step.commits_eq]; exact sound.generation
  positive := by rw [step.messages]; exact sound.positive
  ends := step.messages ▸ ends_congr step.committed sound
  past := past_congr step.committed sound
  waiting := by
    intro compaction stored state
    rw [step.ready_iff]
    rcases step.pending compaction stored state with old | ⟨target, start, stop⟩
    · exact sound.waiting compaction old state
    · rw [target, start, stop]
      exact plan

end

end Opens

namespace Commits

variable {pending committed : CompactionRow}

section

variable (step : history.Commits next pending committed)
include step

theorem next_range (sound : history.Sound initial) :
    pending.generation = initial + history.commits + 1 ∧
      history.Next pending.sourceStartOrdinal pending.sourceEndOrdinal := by
  have current := step.generation.1
  rw [sound.generation, Option.some.injEq] at current
  have target : pending.generation = initial + history.commits + 1 := by omega
  exact ⟨target, (sound.waiting pending step.waiting.1 step.waiting.2).next target⟩

theorem ready (plan : history.Ready initial generation first last) :
    next.Ready initial generation first last where
  due := by
    have := plan.due
    rw [step.counted]
    omega
  next same := by
    -- the generation was the next one before the commit at best
    have := plan.due
    rw [step.counted] at same
    omega

theorem compacted_iff (sound : history.Sound initial)
    (member : row ∈ next.messages) :
    (∃ old ∈ history.messages, old.ordinal = row.ordinal ∧
      (row.compacted ↔ old.compacted ∨ pending.Spans row.ordinal)) ∧
      (row.compacted ↔ row.ordinal ≤ pending.sourceEndOrdinal) := by
  obtain ⟨_, range⟩ := step.next_range sound
  rw [step.messages, List.mem_map] at member
  obtain ⟨old, present, rfl⟩ := member
  have before := range.split old present
  have ordered := range.ordered
  by_cases spans : pending.Spans old.ordinal
  · rw [if_pos spans]
    have within := spans.2
    exact ⟨⟨old, present, rfl, by simp [markCompacted, spans]⟩, by simpa [markCompacted] using within⟩
  · rw [if_neg spans]
    refine ⟨⟨old, present, rfl, by simp [spans]⟩, before.trans ⟨fun below => by omega, fun within => ?_⟩⟩
    by_contra beyond
    exact spans ⟨by omega, within⟩

theorem sound (sound : history.Sound initial) : next.Sound initial where
  front := by
    intro row member later present compacted order
    rw [(step.compacted_iff sound present).2] at compacted
    rw [(step.compacted_iff sound member).2]
    omega
  spanned := by
    intro row member
    obtain ⟨⟨old, present, ordinal, flag⟩, _⟩ := step.compacted_iff sound member
    rw [flag, sound.spanned old present, ordinal]
    constructor
    · rintro (⟨compaction, stored, state, spans⟩ | spans)
      · exact ⟨compaction, step.kept compaction stored state, state, spans⟩
      · refine ⟨committed, step.landed, step.same.2.2.2, ?_⟩
        rwa [CompactionRow.Spans, step.same.2.1, step.same.2.2.1]
    · rintro ⟨compaction, stored, state, spans⟩
      rcases step.only compaction stored (by simp [state]) with before | rfl
      · exact .inl ⟨compaction, before, state, spans⟩
      · right
        rwa [CompactionRow.Spans, step.same.2.1, step.same.2.2.1] at spans
  generation := by
    obtain ⟨target, _⟩ := step.next_range sound
    rw [step.generation.2, step.counted, target]
    push_cast
    ring_nf
  positive := by
    intro row member
    obtain ⟨⟨old, present, ordinal, _⟩, _⟩ := step.compacted_iff sound member
    rw [← ordinal]
    exact sound.positive old present
  ends := by
    have moved {ordinal : Int} (there : ∃ row ∈ history.messages, row.ordinal = ordinal) :
        ∃ row ∈ next.messages, row.ordinal = ordinal := by
      obtain ⟨row, member, same⟩ := there
      rw [step.messages]
      refine ⟨_, List.mem_map_of_mem member, ?_⟩
      rw [← same]
      split_ifs <;> rfl
    intro compaction stored state
    rcases step.only compaction stored (by simp [state]) with before | rfl
    · exact moved (sound.ends compaction before state)
    · rw [step.same.2.2.1]
      exact moved step.last
  past := by
    intro compaction stored state
    rw [step.counted]
    rcases step.only compaction stored (by simp [state]) with before | rfl
    · have := sound.past compaction before state
      omega
    · obtain ⟨target, _⟩ := step.next_range sound
      rw [step.same.1, target]
      omega
  waiting := by
    intro compaction stored state
    rcases step.only compaction stored (by simp [state]) with before | rfl
    · exact step.ready (sound.waiting compaction before state)
    · simp [step.same.2.2.2] at state

end

end Commits

end SessionHistory

end RustScriptAgent.Storage
