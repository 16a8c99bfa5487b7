import ManagedTree.Proofs.Scope.Continues

/-!
# Closures and deferred actions continue a trace in order

A closure whose body proceeds, and an action that runs at once or is attached to a
closure, proceed as well when every action does.  The records of actions that run
when a closure is left form a block in which they run in turn.
-/

namespace ManagedTree

open Trace HasLedger

variable {ε σ α ν β : Type} [HasLedger σ α ν]

/-- Whether a moment neither moves a thread nor is about an action that has not ended. -/
def Moment.isQuiet : Moment α ν → Bool
  | .ended _ _ | .returned _ | .noted _ => true
  | _ => false

/-- A quiet moment leaves the scopes standing for the closures. -/
theorem HasLedger.Stands.quiet
    {state : σ}
    {moment : Moment α ν}
    (stands : Stands state)
    (quiet : moment.isQuiet = true)
    (recent : ∀ number, moment.number? = some number → number ≤ (trace state).length) :
    Stands (recorded moment state) := by
  unfold Stands
  rw [thread_recorded, scopes_recorded, trace_recorded]
  refine stands.concat (belongs_recordOf state moment) ?_ recent ?_ ?_ ?_ ?_
  · cases moment <;> trivial
  · rintro closure tree rfl
    cases quiet
  · rintro closure unwound rfl
    cases quiet
  · intro scope _
    cases moment <;> first | rfl | cases quiet
  · rintro scope _ action _ tree act rfl
    cases quiet

theorem Continues.quiet
    {floor : Nat}
    {state : σ}
    {moment : Moment α ν}
    (stands : Stands state)
    (quiet : moment.isQuiet = true)
    (recent : ∀ number, moment.number? = some number →
      floor ≤ number ∧ number ≤ (trace state).length) :
    Continues floor state (recorded moment state) [recordOf state moment] := by
  have after := stands.quiet quiet fun number about => (recent number about).2
  refine Continues.single stands ?_ (fun number about => (recent number about).1) ?_ after
  · cases moment <;> trivial
  · cases moment <;> trivial

namespace Run

/-! ## Noting and looking -/

theorem on_mark (state : σ) (moment : Moment α ν) :
    (mark moment : Run ε σ Unit).on state = (.ok (), recorded moment state) := rfl

/-- Noting something proceeds. -/
theorem note_proceeds (note : ν) : Keeps Proceeds (mark (.noted note) : Run ε σ Unit) :=
  fun state stands =>
    ⟨[recordOf state (.noted note)], Continues.quiet stands rfl nofun⟩

/-! ## Actions -/

variable {perform : α → Run ε σ Unit}

theorem on_carryOut (state : σ) (tree : Nat) (action : Nat × α) :
    (carryOut perform tree action).on state =
      (let started := recorded (.started action.1 tree action.2) state
       let performed := (perform action.2).on started
       (performed.1, recorded (.ended action.1 (!performed.1.isOk)) performed.2)) := by
  unfold carryOut mark
  simp only [on_modify_bind, on_outcome_bind, on_ending]

/-- The state after an action that may start does so. -/
theorem started_stands
    {tree : Nat}
    {state : σ}
    {action : Nat × α}
    (stands : Stands state)
    (admits : AdmitsStart (trace state) (thread state) action.1 tree action.2) :
    Stands (recorded (.started action.1 tree action.2) state) := by
  have old := admits.number_lt stands.numbered
  unfold Stands
  rw [thread_recorded, scopes_recorded, trace_recorded]
  refine stands.concat (belongs_recordOf state _) admits ?_ (by simp) (by simp)
    (by simp [attaches?]) ?_
  · intro number about
    obtain rfl : action.1 = number := Option.some.inj about
    exact Nat.le_of_lt old
  · intro scope present held among home act same
    obtain ⟨number, -, -⟩ := Moment.started.inj same
    have attachedHere : action.1 ∈ attached scope.number (trace state) := by
      rw [number, ← stands.deferred scope present]
      exact List.mem_map_of_mem among
    obtain ⟨earlier, member, left⟩ := admits.left _ attachedHere
    exact stands.not_left present earlier member _ left

/-- An action that may start runs from its start to its end. -/
theorem carryOut_continues
    {floor tree : Nat}
    {state : σ}
    {action : Nat × α}
    (performs : ∀ act, Keeps Proceeds (perform act))
    (stands : Stands state)
    (admits : AdmitsStart (trace state) (thread state) action.1 tree action.2)
    (recent : floor ≤ action.1) :
    ∃ middle stop,
      Continues floor state ((carryOut perform tree action).on state).2
        (recordOf state (.started action.1 tree action.2) :: (middle ++ [stop])) ∧
      stop.moment = .ended action.1 (!((carryOut perform tree action).on state).1.isOk) ∧
      stop.trees = trees ((carryOut perform tree action).on state).2 ∧
      (∀ record ∈ middle, ∀ number, record.moment.number? = some number →
        (trace state).length ≤ number) ∧
      ∀ home, inside home (trace ((carryOut perform tree action).on state).2) =
        inside home (trace state) := by
  have old := admits.number_lt stands.numbered
  rw [on_carryOut]
  set started := recorded (.started action.1 tree action.2) state with startedDef
  set performed := (perform action.2).on started with performedDef
  have startedStands : Stands started := started_stands stands admits
  have longer : (trace started).length = (trace state).length + 1 := by
    rw [startedDef, trace_recorded, List.length_append, List.length_singleton]
  obtain ⟨middle, performing⟩ := performs action.2 started startedStands
  have ends : Continues floor performed.2
      (recorded (.ended action.1 (!performed.1.isOk)) performed.2)
      [recordOf performed.2 (.ended action.1 (!performed.1.isOk))] := by
    apply Continues.quiet performing.stands rfl
    intro number about
    obtain rfl : action.1 = number := Option.some.inj about
    refine ⟨recent, ?_⟩
    rw [performing.trace_eq, List.length_append]
    omega
  refine ⟨middle, recordOf performed.2 (.ended action.1 (!performed.1.isOk)), ?_, rfl, ?_, ?_, ?_⟩
  · refine Continues.cons stands admits ?_ (thread_recorded _ _) (trace_recorded _ _)
      ((performing.lower (by omega)).trans ends) trivial
    intro number about
    obtain rfl : action.1 = number := Option.some.inj about
    exact recent
  · rw [trees_recordOf, trees_recorded]
  · intro record present number about
    have := performing.orderly.recent present about
    omega
  · intro home
    rw [trace_recorded, inside_concat_of_quiet, performing.inside_eq startedStands
      (Nat.le_refl _), startedDef, trace_recorded, inside_concat_of_quiet] <;>
      simp [Record.entering?, Record.leaves]

/-- An action that may start may still do so when another one has run. -/
theorem admits_after_carryOut
    {tree : Nat}
    {state : σ}
    {action other : Nat × α}
    (performs : ∀ act, Keeps Proceeds (perform act))
    (stands : Stands state)
    (admits : AdmitsStart (trace state) (thread state) action.1 tree action.2)
    (admitsOther : AdmitsStart (trace state) (thread state) other.1 tree other.2)
    (differs : action.1 ≠ other.1) :
    AdmitsStart (trace ((carryOut perform tree action).on state).2)
      (thread ((carryOut perform tree action).on state).2) other.1 tree other.2 := by
  obtain ⟨middle, stop, continues, ends, -, news, stays⟩ :=
    carryOut_continues performs stands admits (Nat.zero_le _)
  have old := admitsOther.number_lt stands.numbered
  have staysHere := stays (thread state)
  rw [continues.trace_eq] at staysHere
  rw [continues.trace_eq, continues.thread_eq]
  refine admitsOther.append ?_ staysHere
  intro record among about
  simp only [List.mem_cons, List.mem_append, List.not_mem_nil, or_false] at among
  rcases among with rfl | among | rfl
  · exact differs (Option.some.inj about)
  · have := news record among other.1 about
    omega
  · rw [ends] at about
    exact differs (Option.some.inj about)

/-- Actions that may start run in turn, up to the first that fails to return. -/
theorem each_carryOut_continues
    {floor tree : Nat}
    {state : σ}
    {actions : List (Nat × α)}
    (performs : ∀ act, Keeps Proceeds (perform act))
    (stands : Stands state)
    (admits : ∀ action ∈ actions,
      AdmitsStart (trace state) (thread state) action.1 tree action.2)
    (distinct : (actions.map Prod.fst).Nodup)
    (recent : ∀ action ∈ actions, floor ≤ action.1) :
    ∃ block,
      Continues floor state ((each (carryOut perform tree) actions).on state).2 block ∧
      (((each (carryOut perform tree) actions).on state).1 = .ok () ∧
          InTurn (trees state) (actions.map Prod.fst) block ∨
        (∃ early, ((each (carryOut perform tree) actions).on state).1 = .error early) ∧
          ∃ action ∈ actions, ∃ later ∈ block, later.moment = .ended action.1 true) := by
  induction actions generalizing state with
  | nil => exact ⟨[], Continues.refl floor stands, Or.inl ⟨rfl, .nil⟩⟩
  | cons action actions inductionHypothesis =>
      obtain ⟨middle, stop, continues, ends, treesThen, -, -⟩ :=
        carryOut_continues performs stands (admits action (by simp))
          (recent action (by simp))
      rw [each, on_bind]
      rcases both : (carryOut perform tree action).on state with ⟨result, next⟩
      rw [both] at continues ends treesThen
      cases result with
      | error early =>
          exact ⟨_, continues, Or.inr ⟨⟨early, rfl⟩, action, by simp, stop, by simp, ends⟩⟩
      | ok value =>
          obtain ⟨apart, distinctRest⟩ := List.nodup_cons.1 (List.map_cons ▸ distinct)
          have admitsRest : ∀ other ∈ actions,
              AdmitsStart (trace next) (thread next) other.1 tree other.2 := by
            intro other present
            have differs : action.1 ≠ other.1 := by
              intro same
              exact apart (same ▸ List.mem_map_of_mem present)
            have still := admits_after_carryOut performs stands (admits action (by simp))
              (admits other (by simp [present])) differs
            rw [both] at still
            exact still
          obtain ⟨block, rest, finish⟩ := inductionHypothesis continues.stands admitsRest
            distinctRest fun other present => recent other (by simp [present])
          refine ⟨_, continues.trans rest, ?_⟩
          rcases finish with ⟨done, turns⟩ | ⟨failed, other, present, later, among, ended⟩
          · refine Or.inl ⟨done, ?_⟩
            rw [← treesThen] at turns
            have all : InTurn (recordOf state (.started action.1 tree action.2)).trees
                (action.1 :: actions.map Prod.fst)
                (recordOf state (.started action.1 tree action.2) ::
                  (middle ++ stop :: block)) :=
              .cons rfl ends turns
            rw [List.cons_append, List.append_assoc, List.singleton_append]
            exact all
          · exact Or.inr ⟨failed, other, by simp [present], later, by simp [among], ended⟩

/-- The state after an action is handed over outside the closures of its tree. -/
theorem handed_stands
    {state : σ}
    {tree : Nat}
    (stands : Stands state)
    (outside : outermost? (thread state) tree (trace state) = none)
    (action : α) :
    Stands (recorded (.handed (trace state).length tree action) state) := by
  unfold Stands
  rw [thread_recorded, scopes_recorded, trace_recorded]
  refine stands.concat (belongs_recordOf state _) rfl ?_ (by simp) (by simp) ?_ (by simp)
  · intro other about
    exact Nat.le_of_eq (Option.some.inj about).symm
  · intro scope _
    simp [attaches?, outside]

/-- An action that is handed over outside the closures of its tree may start. -/
theorem handed_admits
    {state : σ}
    {tree : Nat}
    (stands : Stands state)
    (outside : outermost? (thread state) tree (trace state) = none)
    (action : α) :
    AdmitsStart (trace (recorded (.handed (trace state).length tree action) state))
      (thread (recorded (.handed (trace state).length tree action) state))
      (trace state).length tree action := by
  set handed : Moment α ν := .handed (trace state).length tree action with handedDef
  rw [thread_recorded, trace_recorded]
  refine ⟨⟨recordOf state handed, by simp, rfl, rfl⟩, ?_, ?_, ?_⟩
  · intro earlier present other act started
    rcases List.mem_append.1 present with old | new
    · have := stands.numbered earlier old (trace state).length (by rw [started]; rfl)
      omega
    · rw [List.mem_singleton.1 new] at started
      cases started
  · rw [outermost?, inside_concat_of_quiet _ rfl fun _ => rfl]
    exact outside
  · intro closure present
    have unattached : attaches? closure (trace state) (recordOf state handed) = none := by
      simp [attaches?, handedDef, outside]
    rw [attached_concat, unattached, Option.toList_none, List.append_nil] at present
    have := stands.admitted.attached_lt present
    omega

/-- An action runs at once or is attached to a closure. -/
theorem unlocked_proceeds
    (performs : ∀ act, Keeps Proceeds (perform act))
    (tree : Nat)
    (action : α) :
    Keeps Proceeds (unlocked perform tree action) := by
  intro state stands
  set number := (trace state).length with numberDef
  set handed := recorded (.handed number tree action) state with handedDef
  have belongs := belongs_recordOf state (.handed number tree action)
  have recent : ∀ other, (Moment.handed number tree action : Moment α ν).number? = some other →
      (trace state).length ≤ other := by
    intro other about
    exact Nat.le_of_eq (Option.some.inj about)
  unfold unlocked mark
  simp only [on_get_bind, on_modify_bind]
  rw [← numberDef, ← handedDef]
  cases attaches : Scope.attach? tree (number, action) (scopes state) with
  | some others =>
      obtain ⟨inner, scope, outer, split, same, different, -⟩ := Scope.attach?_eq_some attaches
      have outermost : outermost? (thread state) tree (trace state) = some scope.number := by
        have apart : Standing (thread state) (inner ++ scope :: outer) (trace state) := by
          rw [← split]
          exact stands
        rw [← same] at different ⊢
        exact apart.outermost?_eq_some different
      have after : Stands (reopened others handed) := by
        unfold Stands
        rw [thread_reopened, scopes_reopened, trace_reopened, handedDef, thread_recorded,
          trace_recorded]
        exact stands.hand belongs rfl attaches
      refine ⟨[recordOf state (.handed number tree action)], ?_⟩
      change Continues _ state (reopened others handed) _
      refine Continues.cons stands rfl recent ?_ ?_ (Continues.refl _ after) ?_
      · rw [thread_reopened, handedDef, thread_recorded]
      · rw [trace_reopened, handedDef, trace_recorded]
      · intro outside
        rw [thread_recordOf, outermost] at outside
        cases outside
  | none =>
      have outside := stands.outermost?_eq_none (Scope.attach?_eq_none attaches)
      have handedStands : Stands handed := handed_stands stands outside action
      have admits : AdmitsStart (trace handed) (thread handed) number tree action :=
        handed_admits stands outside action
      have recentAction : (trace state).length ≤ (number, action).1 := Nat.le_refl _
      obtain ⟨middle, stop, continues, -⟩ :=
        carryOut_continues performs handedStands admits recentAction
      have first : AdmitsMoment (trace state) (thread state) (.handed number tree action) := rfl
      refine ⟨_, Continues.cons stands first recent (thread_recorded _ _) (trace_recorded _ _)
        continues ?_⟩
      intro _
      exact ⟨_, _, rfl, rfl, trees_recorded _ _⟩

/-! ## Closures -/

/-- The state within a closure that has just been entered. -/
def entering (tree : Nat) (access : Access) (state : σ) : σ :=
  reopened (⟨(trace state).length, tree, access, []⟩ :: scopes state)
    (recorded (.entered (trace state).length tree) state)

@[simp] theorem thread_entering (tree : Nat) (access : Access) (state : σ) :
    thread (entering tree access state) = thread state := by
  simp [entering]

@[simp] theorem trace_entering (tree : Nat) (access : Access) (state : σ) :
    trace (entering tree access state) =
      trace state ++ [recordOf state (.entered (trace state).length tree)] := by
  simp [entering]

@[simp] theorem scopes_entering (tree : Nat) (access : Access) (state : σ) :
    scopes (entering tree access state) =
      ⟨(trace state).length, tree, access, []⟩ :: scopes state := by
  simp [entering]

theorem on_enter (state : σ) (tree : Nat) (access : Access) :
    (enter tree access : Run ε σ Nat).on state =
      (.ok (trace state).length, entering tree access state) := rfl

theorem on_leave
    {state : σ}
    {scope : Scope α}
    {outer : List (Scope α)}
    (number : Nat)
    (unwound : Bool)
    (innermost : scopes state = scope :: outer) :
    (leave number unwound : Run ε σ (List (Nat × α))).on state =
      (.ok scope.deferred, reopened outer (recorded (.left number unwound) state)) := by
  unfold leave mark
  simp only [on_modify_bind, on_get_bind, scopes_recorded, innermost, reopen, on_pure]

/-- A closure runs its body in a scope of its own, and then the actions attached to the scope
unless it unwinds. -/
theorem on_within
    {state : σ}
    {scope : Scope α}
    {outer : List (Scope α)}
    {tree : Nat}
    {access : Access}
    {body : Run ε σ β}
    (unwinds : ε → Bool)
    (innermost : scopes (body.on (entering tree access state)).2 = scope :: outer) :
    (within perform unwinds tree access body).on state =
      (let done := body.on (entering tree access state)
       (if unwound unwinds done.1 then ending done.1
        else do
          each (carryOut perform tree) scope.deferred
          mark (.returned (trace state).length)
          ending done.1).on
            (reopened outer
              (recorded (.left (trace state).length (unwound unwinds done.1)) done.2))) := by
  unfold within
  rw [on_bind, on_enter]
  simp only [on_outcome_bind]
  rw [on_bind, on_leave _ _ innermost]

/-- What is left of a closure once its scope is closed keeps what the actions attached to the scope
keep. -/
theorem rest_keeps
    {R : σ → σ → Prop}
    [Std.Refl R]
    [IsTrans σ R]
    {tree number : Nat}
    {actions : List (Nat × α)}
    (carries : ∀ action ∈ actions, Keeps R (carryOut perform tree action))
    (returns : Keeps R (mark (.returned number) : Run ε σ Unit))
    (unwinds : ε → Bool)
    (result : Except ε β) :
    Keeps R
      (if unwound unwinds result then ending result
      else do
        each (carryOut perform tree) actions
        mark (.returned number)
        ending result) := by
  split
  · exact Keeps.ending result
  · exact Keeps.bind (Keeps.each carries) fun _ =>
      Keeps.bind returns fun _ => Keeps.ending result

/-- The state after a scope is opened. -/
theorem enter_stands
    {state : σ}
    (stands : Stands state)
    (tree : Nat)
    (access : Access) :
    Stands (entering tree access state) := by
  unfold Stands
  rw [thread_entering, scopes_entering, trace_entering]
  exact stands.enter (belongs_recordOf state _) tree access rfl

/-- The state after the innermost scope is closed. -/
theorem leave_stands
    {state : σ}
    {scope : Scope α}
    {outer : List (Scope α)}
    (stands : Stands state)
    (innermost : scopes state = scope :: outer)
    (unwound : Bool) :
    Stands (reopened outer (recorded (.left scope.number unwound) state)) := by
  unfold Stands at stands ⊢
  have belongs := belongs_recordOf state (.left scope.number unwound)
  rw [innermost] at stands belongs
  rw [thread_reopened, scopes_reopened, trace_reopened, thread_recorded, trace_recorded]
  exact stands.leave belongs rfl

/-- The actions attached to a closure that is left normally may start. -/
theorem leave_admits
    {state : σ}
    {scope : Scope α}
    {outer : List (Scope α)}
    (stands : Stands state)
    (innermost : scopes state = scope :: outer) :
    ∀ action ∈ scope.deferred,
      AdmitsStart (trace (recorded (.left scope.number false) state))
        (thread (recorded (.left scope.number false) state)) action.1 scope.tree action.2 := by
  intro action present
  have member : scope ∈ scopes state := by simp [innermost]
  obtain ⟨⟨earlier, among, handed, here⟩, unstarted⟩ :=
    stands.waiting scope member action present
  have attachedHere : action.1 ∈ attached scope.number (trace state) := by
    rw [← stands.deferred scope member]
    exact List.mem_map_of_mem present
  have after := leave_stands stands innermost false
  unfold Stands at after
  rw [thread_reopened, scopes_reopened, trace_reopened] at after
  refine ⟨⟨earlier, ?_, handed, here.trans (thread_recorded _ _).symm⟩, ?_, ?_, ?_⟩
  · rw [trace_recorded]
    exact List.mem_append_left _ among
  · intro record among other act started
    rw [trace_recorded] at among
    rcases List.mem_append.1 among with old | new
    · exact unstarted record old other act started
    · rw [List.mem_singleton.1 new] at started
      cases started
  · have outermost := stands.outermost
    rw [innermost, List.pairwise_cons] at outermost
    refine after.outermost?_eq_none fun other among => ?_
    exact outermost.1 other among (List.ne_nil_of_mem present)
  · intro closure attachedThere
    have none : attaches? closure (trace state)
        (recordOf state (.left scope.number false)) = none := rfl
    rw [trace_recorded, attached_concat, none, Option.toList_none, List.append_nil]
      at attachedThere
    obtain rfl := stands.admitted.attached_unique attachedHere attachedThere
    rw [trace_recorded]
    exact ⟨recordOf state (.left scope.number false), by simp, rfl⟩

/-- The innermost scope after the body of a closure is that of the closure. -/
theorem innermost_after
    {tree : Nat}
    {access : Access}
    {state after : σ}
    {segment : Trace α ν}
    (stands : Stands state)
    (continues : Continues (trace state).length state after segment)
    {number : Nat}
    {outer : List (Scope α)}
    (opened : scopes state = ⟨number, tree, access, []⟩ :: outer) :
    ∃ scope others, scopes after = scope :: others ∧ scope.number = number ∧
      scope.tree = tree := by
  have same := continues.closures_eq stands (Nat.le_refl _)
  rw [opened, List.map_cons] at same
  obtain ⟨scope, others, split, closure, _⟩ := List.map_eq_cons_iff.1 same
  obtain ⟨numberEq, treeEq⟩ := Prod.mk.inj closure
  exact ⟨scope, others, split, numberEq, treeEq⟩

/-- What happens from entering a closure to what follows its leaving is in order. -/
theorem closure_continues
    {tree : Nat}
    {access : Access}
    {state done after : σ}
    {scope : Scope α}
    {outer : List (Scope α)}
    {unwound : Bool}
    {segment rest : Trace α ν}
    (stands : Stands state)
    (body : Continues ((trace state).length + 1) (entering tree access state) done segment)
    (innermost : scopes done = scope :: outer)
    (number : scope.number = (trace state).length)
    (rest_continues : Continues (trace state).length
      (reopened outer (recorded (.left scope.number unwound) done)) after rest)
    (follows : Follows (trace done) (recordOf done (.left scope.number unwound)) rest) :
    Continues (trace state).length state after
      (recordOf state (.entered (trace state).length tree) ::
        (segment ++ recordOf done (.left scope.number unwound) :: rest)) := by
  have leaving : AdmitsMoment (trace done) (thread done)
      (.left scope.number unwound : Moment α ν) :=
    ⟨scope.tree, body.stands.closure_mem (by simp [innermost])⟩
  have recentLeft : ∀ other,
      (Moment.left scope.number unwound : Moment α ν).number? = some other →
        (trace state).length ≤ other := by
    intro other about
    rw [← number]
    exact Nat.le_of_eq (Option.some.inj about)
  have recentEntered : ∀ other,
      (Moment.entered (trace state).length tree : Moment α ν).number? = some other →
        (trace state).length ≤ other := by
    intro other about
    exact Nat.le_of_eq (Option.some.inj about)
  have leavingOn : Continues (trace state).length done after
      (recordOf done (.left scope.number unwound) :: rest) := by
    refine Continues.cons body.stands leaving recentLeft ?_ ?_ rest_continues follows
    · rw [thread_reopened, thread_recorded]
    · rw [trace_reopened, trace_recorded]
  have entering : AdmitsMoment (trace state) (thread state)
      (.entered (trace state).length tree : Moment α ν) := rfl
  refine Continues.cons stands entering recentEntered ?_ ?_
    ((body.lower (Nat.le_succ _)).trans leavingOn) ?_
  · exact thread_entering tree access state
  · exact trace_entering tree access state
  · refine ⟨recordOf done (.left scope.number unwound), by simp, unwound, ?_⟩
    rw [moment_recordOf, number]

/-- A closure proceeds when its body and the actions do. -/
theorem within_proceeds
    {body : Run ε σ β}
    (performs : ∀ act, Keeps Proceeds (perform act))
    (proceeds : Keeps Proceeds body)
    (unwinds : ε → Bool)
    (tree : Nat)
    (access : Access) :
    Keeps Proceeds (within perform unwinds tree access body) := by
  intro state stands
  have enteringStands := enter_stands stands tree access
  have longer : (trace (entering tree access state)).length = (trace state).length + 1 := by
    rw [trace_entering, List.length_append, List.length_singleton]
  obtain ⟨segment, running⟩ := proceeds (entering tree access state) enteringStands
  obtain ⟨scope, outer, innermost, number, rfl⟩ := innermost_after enteringStands running
    (scopes_entering tree access state)
  rw [longer] at running
  have numbered : ∀ unwound,
      (.left (trace state).length unwound : Moment α ν) = .left scope.number unwound := by
    intro unwound
    rw [number]
  rw [on_within unwinds innermost]
  dsimp only
  rw [numbered]
  set done := body.on (entering scope.tree access state)
  have leftStands := leave_stands running.stands innermost (unwound unwinds done.1)
  cases unwinding : unwound unwinds done.1 with
  | true =>
      rw [unwinding] at leftStands
      rw [if_pos rfl, on_ending]
      exact ⟨_, closure_continues stands running innermost number
        (Continues.refl _ leftStands) trivial⟩
  | false =>
      rw [unwinding] at leftStands
      rw [if_neg (by simp)]
      have present : scope ∈ scopes done.2 := by simp [innermost]
      have attachedEq := running.stands.deferred scope present
      have admits := leave_admits running.stands innermost
      have distinct : (scope.deferred.map Prod.fst).Nodup := by
        rw [attachedEq]
        exact running.stands.admitted.attached_nodup scope.number
      have recent : ∀ action ∈ scope.deferred, (trace state).length ≤ action.1 := by
        intro action among
        have attachedHere : action.1 ∈ attached scope.number (trace done.2) := by
          rw [← attachedEq]
          exact List.mem_map_of_mem among
        have := running.stands.admitted.lt_of_attached attachedHere
        omega
      obtain ⟨block, continues, finish⟩ := each_carryOut_continues performs leftStands
        (by rwa [thread_reopened, trace_reopened]) distinct recent
      rw [on_bind]
      rcases both : (each (carryOut perform scope.tree) scope.deferred).on
        (reopened outer (recorded (.left scope.number false) done.2)) with ⟨result, last⟩
      rw [both] at continues finish
      rcases finish with ⟨rfl, turns⟩ | ⟨⟨early, rfl⟩, action, among, later, member, failed⟩
      · simp only [mark, on_modify_bind, on_ending]
        have backs : Continues (trace state).length last
            (recorded (.returned (trace state).length) last)
            [recordOf last (.returned (trace state).length)] := by
          apply Continues.quiet continues.stands rfl
          intro other about
          obtain rfl : (trace state).length = other := Option.some.inj about
          refine ⟨Nat.le_refl _, ?_⟩
          rw [continues.trace_eq, trace_reopened, trace_recorded, running.trace_eq]
          simp only [List.length_append, longer]
          omega
        refine ⟨_, closure_continues stands running innermost number
          (continues.trans backs) ?_⟩
        refine Or.inl ⟨block, recordOf last (.returned (trace state).length), [], rfl,
          by rw [moment_recordOf, number], ?_⟩
        rw [← attachedEq]
        rw [trees_reopened, trees_recorded] at turns
        exact turns
      · refine ⟨_, closure_continues stands running innermost number continues ?_⟩
        refine Or.inr ⟨action.1, ?_, later, member, failed⟩
        rw [← attachedEq]
        exact List.mem_map_of_mem among

end Run
end ManagedTree
