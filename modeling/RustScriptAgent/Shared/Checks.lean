namespace Checks

variable {condition : Prop}

variable {Failure Answer Result : Type} {result : Result}

theorem passed_if [Decidable condition] {failure : Failure} {rest : Unit → Except Failure Result}
    (ok : (if condition then Except.error failure >>= rest else rest ()) = .ok result) :
    ¬ condition ∧ rest () = .ok result := by
  split at ok
  next => cases ok
  next refused => exact ⟨refused, ok⟩

theorem passed_bind {answer : Except Failure Answer} {rest : Answer → Except Failure Result}
    (ok : answer >>= rest = .ok result) : ∃ value, answer = .ok value ∧ rest value = .ok result := by
  cases answer with
  | error failure => cases ok
  | ok value => exact ⟨value, rfl, ok⟩

theorem bind_of_ok {answer : Except Failure Answer} {value : Answer} {rest : Answer → Except Failure Result}
    (ok : answer = .ok value) (more : rest value = .ok result) : answer >>= rest = .ok result := by
  rw [ok]
  exact more

def refuseIf (condition : Prop) [Decidable condition] (failure : Failure) : Except Failure Unit :=
  if condition then .error failure else .ok ()

@[simp] theorem refuseIf_ok [Decidable condition] {failure : Failure} {passed : Unit} :
    refuseIf condition failure = .ok passed ↔ ¬ condition := by
  by_cases refused : condition <;> simp [refuseIf, refused]

@[simp] theorem andThen_ok {check : Except Failure Unit} {rest : Unit → Except Failure Result} :
    check >>= rest = .ok result ↔ check = .ok () ∧ rest () = .ok result := by
  cases check with
  | error failure => simp [bind, Except.bind]
  | ok passed => simp [bind, Except.bind]

section MapM

variable {Item : Type} {check : Item → Except Failure Answer} {items : List Item} {answers : List Answer}

theorem mapM_passed (ok : items.mapM check = .ok answers) :
    (∀ item ∈ items, ∃ answer ∈ answers, check item = .ok answer) ∧
      ∀ answer ∈ answers, ∃ item ∈ items, check item = .ok answer := by
  induction items generalizing answers with
  | nil =>
    cases ok
    exact ⟨nofun, nofun⟩
  | cons item rest ih =>
    rw [List.mapM_cons] at ok
    obtain ⟨answer, first, ok⟩ := passed_bind ok
    obtain ⟨others, more, ok⟩ := passed_bind ok
    cases ok
    obtain ⟨each, known⟩ := ih more
    simp only [List.mem_cons, forall_eq_or_imp, exists_eq_or_imp]
    exact ⟨⟨.inl first, fun item member => .inr (each item member)⟩,
      ⟨.inl first, fun answer member => .inr (known answer member)⟩⟩

theorem mapM_congr {other : Item → Except Failure Answer} (same : ∀ item ∈ items, other item = check item) :
    items.mapM other = items.mapM check := by
  induction items with
  | nil => rfl
  | cons item rest ih =>
    rw [List.forall_mem_cons] at same
    rw [List.mapM_cons, List.mapM_cons, same.1, ih same.2]

theorem exists_mapM (all : ∀ item ∈ items, ∃ answer, check item = .ok answer) :
    ∃ answers, items.mapM check = .ok answers := by
  induction items with
  | nil => exact ⟨[], rfl⟩
  | cons item rest ih =>
    obtain ⟨⟨answer, first⟩, others⟩ := List.forall_mem_cons.mp all
    obtain ⟨answers, more⟩ := ih others
    rw [List.mapM_cons]
    exact ⟨_, bind_of_ok first (bind_of_ok more rfl)⟩

end MapM

def FailsWith (property : Failure → Prop) (answer : Except Failure Answer) : Prop :=
  ∀ failure, answer = .error failure → property failure

section FailsWith

variable {property : Failure → Prop}

theorem failsWith_ok (value : Answer) : FailsWith property (.ok value : Except Failure Answer) := nofun

theorem failsWith_error {failure : Failure} (holds : property failure) :
    FailsWith property (.error failure : Except Failure Answer) := by
  rintro _ ⟨⟩
  exact holds

theorem failsWith_refuseIf [Decidable condition] {failure : Failure} (holds : property failure) :
    FailsWith property (refuseIf condition failure) := by
  unfold refuseIf
  split
  · exact failsWith_error holds
  · exact failsWith_ok ()

theorem failsWith_bind {answer : Except Failure Answer} {rest : Answer → Except Failure Result}
    (first : FailsWith property answer) (others : ∀ value, FailsWith property (rest value)) :
    FailsWith property (answer >>= rest) := by
  cases answer with
  | error failure => exact failsWith_error (first failure rfl)
  | ok value => exact others value

end FailsWith

end Checks
