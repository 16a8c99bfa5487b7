import ManagedTree.Proofs.Controller.Custody
import ManagedTree.Proofs.Controller.Proceeds
import ManagedTree.Proofs.Controller.Protocol

/-!
# Storing the tree of a completed execution

The keeper is asked to store the tree of a controller once for every execution whose
completion reaches the caller, unless the outermost closure of the tree around the
completion unwinds.  It is asked after the caller got the completion, never within a
closure of the tree, and with the tree as that closure left it.
-/

namespace ManagedTree
namespace Controller

open HasLedger Run Trace

/-- How often the keeper is asked to store the tree for a stream. -/
def asked (number : Nat) (trace : Trace Errand Occurrence) : Nat :=
  trace.countP (Record.stores number)

/-- How the tree is stored for a stream whose completion a record brings to the caller, by the
outermost closure of the tree that its thread is in and by what happens afterwards. -/
inductive Storage (number : Nat) (record : Record Errand Occurrence) :
    Option Nat → Trace Errand Occurrence → Prop
  /-- The tree is stored as it is, at once and never again. -/
  | atOnce {root : Node} {storing : Record Errand Occurrence}
      {first rest : Trace Errand Occurrence} :
      record.trees = [root] →
      eventsOf first = [] →
      storing.moment = .noted (.event (.stored (some number) root false)) →
      asked number rest = 0 →
      Storage number record none (first ++ storing :: rest)
  /-- The closure unwinds, and the tree is never stored. -/
  | dropped {closure : Nat} {leaving : Record Errand Occurrence}
      {inner rest : Trace Errand Occurrence} :
      leaving.moment = .left closure true →
      asked number inner = 0 →
      asked number rest = 0 →
      Storage number record (some closure) (inner ++ leaving :: rest)
  /-- The closure is left normally, and the tree is stored once, as the closure left it and
  before the call of the closure returns. -/
  | deferred {closure : Nat} {root : Node} {leaving storing back : Record Errand Occurrence}
      {inner first second rest : Trace Errand Occurrence} :
      leaving.moment = .left closure false →
      leaving.trees = [root] →
      storing.moment = .noted (.event (.stored (some number) root false)) →
      back.moment = .returned closure →
      asked number inner = 0 →
      asked number first = 0 →
      asked number (second ++ back :: rest) = 0 →
      Storage number record (some closure)
        (inner ++ leaving :: (first ++ storing :: (second ++ back :: rest)))

/-- The trace of a controller whose keeper returns, and the caller of one stream as well. -/
structure Accounted (number : Nat) (whole : Trace Errand Occurrence) : Prop where
  /-- It is in order. -/
  orderly : Orderly 0 [] whole
  /-- Its records come together. -/
  paired : Throughout (Paired (· = number)) [] whole
  /-- Nothing reaches the caller after completion. -/
  last : ∀ before record after, whole = before ++ record :: after →
    record.completes number = true → deliveredIn number (eventsOf after) = []

/-! ## Completions and errands -/

theorem asked_eq_zero
    {number : Nat}
    {trace : Trace Errand Occurrence} :
    asked number trace = 0 ↔
      ∀ before record after, trace = before ++ record :: after →
        ∀ root held, record.moment ≠ .noted (.event (.stored (some number) root held)) := by
  rw [asked, List.countP_eq_zero]
  constructor
  · rintro none before record after rfl root held stored
    exact none record (by simp) (Record.stores_eq_true.2 ⟨root, held, stored⟩)
  · intro none record present stores
    obtain ⟨before, after, split⟩ := List.append_of_mem present
    obtain ⟨root, held, stored⟩ := Record.stores_eq_true.1 stores
    exact none before record after split root held stored

theorem asked_cons_of_not_stores
    {number : Nat}
    {record : Record Errand Occurrence}
    (rest : Trace Errand Occurrence)
    (different : record.stores number = false) :
    asked number (record :: rest) = asked number rest :=
  List.countP_cons_of_neg (by simp [different])

theorem asked_append
    (number : Nat)
    (first second : Trace Errand Occurrence) :
    asked number (first ++ second) = asked number first + asked number second :=
  List.countP_append

/-- A completion reaches its caller. -/
theorem delivered_of_completes
    {number : Nat}
    {trace : Trace Errand Occurrence}
    {record : Record Errand Occurrence}
    (present : record ∈ trace)
    (completes : record.completes number = true) :
    deliveredIn number (eventsOf trace) ≠ [] := by
  obtain ⟨before, after, rfl⟩ := List.append_of_mem present
  obtain ⟨report, moment, _⟩ := Record.completes_eq_true.1 completes
  have one : deliveredIn number (eventsOf [record]) = [report] := by
    simp [deliveredIn, eventsOf, notes, moment]
  rw [List.append_cons, eventsOf_append, eventsOf_append, deliveredIn_append, deliveredIn_append,
    one]
  simp

namespace Accounted

variable
  {number : Nat} {whole before after past future : Trace Errand Occurrence}
  {record start : Record Errand Occurrence}

/-- Nothing completes again. -/
theorem not_completes_after
    (accounted : Accounted number whole)
    (happened : whole = before ++ record :: after)
    (completes : record.completes number = true) :
    ∀ later ∈ after, later.completes number = false := by
  intro later present
  have nothing := accounted.last before record after happened completes
  rw [Bool.eq_false_iff]
  intro completesAgain
  exact delivered_of_completes present completesAgain nothing

/-- A stream completes once. -/
theorem completes_unique
    {others rest : Trace Errand Occurrence}
    {other : Record Errand Occurrence}
    (accounted : Accounted number whole)
    (happened : whole = before ++ record :: after)
    (again : whole = others ++ other :: rest)
    (completes : record.completes number = true)
    (completesAgain : other.completes number = true) :
    before = others ∧ record = other ∧ after = rest := by
  have first := accounted.not_completes_after happened completes
  have second := accounted.not_completes_after again completesAgain
  have same : before ++ record :: after = others ++ other :: rest := happened.symm.trans again
  rcases List.append_eq_append_iff.1 same with
    ⟨between, rfl, tails⟩ | ⟨between, rfl, tails⟩
  · cases between with
    | nil => exact ⟨(List.append_nil _).symm, List.cons_eq_cons.1 tails⟩
    | cons head between =>
        obtain ⟨-, rfl⟩ := List.cons_eq_cons.1 tails
        have absent := first other (by simp)
        rw [completesAgain] at absent
        cases absent
  · cases between with
    | nil =>
        obtain ⟨rfl, rfl⟩ := List.cons_eq_cons.1 tails
        exact ⟨List.append_nil _, rfl, rfl⟩
    | cons head between =>
        obtain ⟨-, rfl⟩ := List.cons_eq_cons.1 tails
        have absent := second record (by simp)
        rw [completes] at absent
        cases absent

/-- When the errand of a stream starts, it was handed over on the same thread right after the
completion. -/
theorem handed_of_started
    {action tree : Nat}
    (accounted : Accounted number whole)
    (happened : whole = past ++ start :: future)
    (started : start.moment = .started action tree (.store number)) :
    tree = home ∧ ∃ first completing handing second,
      past = first ++ completing :: handing :: second ∧
        completing.completes number = true ∧ completing.thread = start.thread ∧
        handing.moment = .handed action home (.store number) := by
  have orderly := accounted.orderly
  have paired := accounted.paired
  rw [happened] at orderly paired
  obtain ⟨handing, present, handed, thread⟩ := orderly.handed_of_started started
  obtain ⟨earlier, second, rfl⟩ := List.append_of_mem present
  rw [List.append_assoc, List.cons_append] at paired
  obtain ⟨rfl, first, completing, split, completes, same⟩ :=
    (Throughout.at_split paired).handed action tree number handed
  rw [List.nil_append] at split
  refine ⟨rfl, first, completing, handing, second, ?_, completes, same.trans thread, handed⟩
  rw [split, List.append_assoc, List.singleton_append]

/-- The errand of a stream that is handed over is the only one that starts for it. -/
theorem started_unique
    {action other tree : Nat}
    {handing : Record Errand Occurrence}
    (accounted : Accounted number whole)
    (happened : whole = before ++ record :: handing :: after)
    (completes : record.completes number = true)
    (handed : handing.moment = .handed action home (.store number))
    (starting : whole = past ++ start :: future)
    (started : start.moment = .started other tree (.store number)) :
    other = action := by
  obtain ⟨-, first, completing, again, second, rfl, completesAgain, -, handedAgain⟩ :=
    accounted.handed_of_started starting started
  have place : whole = first ++ completing :: (again :: (second ++ start :: future)) := by
    rw [starting]
    simp
  obtain ⟨-, -, tails⟩ := accounted.completes_unique happened place completes completesAgain
  obtain ⟨rfl, -⟩ := List.cons_eq_cons.1 tails
  rw [handed] at handedAgain
  exact (Moment.handed.inj handedAgain).1.symm

/-- Right after the errand of a stream starts, the keeper is asked, and the thread does not
hold the tree. -/
theorem stored_of_started
    {action tree : Nat}
    (accounted : Accounted number whole)
    (happened : whole = past ++ start :: future)
    (started : start.moment = .started action tree (.store number)) :
    outermost? start.thread home past = none ∧ ∃ root rest,
      start.trees = [root] ∧
        future = start.beside (.noted (.event (.stored (some number) root false))) ::
          start.beside (.ended action false) :: rest := by
  obtain ⟨rfl, -⟩ := accounted.handed_of_started happened started
  have orderly := accounted.orderly
  have paired := accounted.paired
  rw [happened] at orderly paired
  have outside := orderly.outside_of_started started
  have stack := (Throughout.at_split orderly).admitted.1
  rw [List.nil_append] at stack
  have unheld : start.stack.contains home = false := by
    rw [stack]
    simpa using not_mem_of_outermost?_eq_none outside
  obtain ⟨root, rest, trees, split⟩ :=
    (Throughout.at_split paired).started action home number started
  rw [unheld] at split
  exact ⟨outside, root, rest, trees, split⟩

/-- The keeper is only asked for a stream right after its errand starts. -/
theorem started_of_stored
    {root : Node}
    {held : Bool}
    (accounted : Accounted number whole)
    (happened : whole = before ++ record :: after)
    (stored : record.moment = .noted (.event (.stored (some number) root held))) :
    ∃ earlier action tree,
      before = earlier ++ [record.beside (.started action tree (.store number))] := by
  have paired := accounted.paired
  rw [happened] at paired
  exact (Throughout.at_split paired).stored number root held stored

/-- Where the only errand of a stream does not start, the keeper is not asked. -/
theorem asked_eq_zero_of_starts
    {action : Nat}
    {segment : Trace Errand Occurrence}
    (accounted : Accounted number whole)
    (only : ∀ past start future other tree, whole = past ++ start :: future →
      start.moment = .started other tree (.store number) → other = action)
    (happened : whole = before ++ record :: (segment ++ after))
    (idle : record.starts action = false)
    (unstarted : starts action segment = 0) :
    asked number segment = 0 := by
  rw [asked_eq_zero]
  rintro first storing second rfl root held stored
  have place : whole = (before ++ record :: first) ++ storing :: (second ++ after) := by
    rw [happened]
    simp
  obtain ⟨earlier, other, tree, split⟩ := accounted.started_of_stored place stored
  set starting := storing.beside (.started other tree (.store number)) with startingDef
  have whereStarted : whole = earlier ++ starting :: (storing :: (second ++ after)) := by
    rw [place, split]
    simp
  obtain rfl : other = action := only _ _ _ other tree whereStarted rfl
  have starts : starting.starts other = true :=
    Record.starts_eq_true.2 ⟨tree, .store number, rfl⟩
  -- The keeper is asked right after the errand starts, which can only be within the segment.
  have last : (record :: first).getLast? = some starting := by
    have same := congrArg List.getLast? split
    rw [List.getLast?_concat, List.getLast?_append_cons] at same
    exact same
  rcases List.mem_cons.1 (List.mem_of_getLast? last) with same | within
  · rw [same, idle] at starts
    cases starts
  · rw [Trace.starts, List.countP_eq_zero] at unstarted
    exact unstarted starting (List.mem_append_left _ within) starts

/-- Errands that run in turn find the trees as they were before the first of them. -/
theorem start_of_turns
    {action : Nat}
    {numbers : List Nat}
    {trees : List Node}
    {block : Trace Errand Occurrence}
    (accounted : Accounted number whole)
    (turns : InTurn trees numbers block)
    (happened : whole = past ++ (block ++ future))
    (present : action ∈ numbers) :
    ∃ first start rest tree errand, block = first ++ start :: rest ∧
      start.moment = .started action tree errand ∧ start.trees = trees := by
  induction turns generalizing past with
  | nil => cases present
  | @cons other tree numbers errand start stop middle rest started ended _ inductionHypothesis =>
      rcases List.mem_cons.1 present with rfl | later
      · exact ⟨[], start, _, tree, errand, rfl, started, rfl⟩
      · have place : whole = (past ++ start :: middle) ++ stop :: (rest ++ future) := by
          rw [happened]
          simp
        have unchanged : stop.trees = start.trees := by
          have paired := accounted.paired
          rw [place] at paired
          obtain ⟨-, earlier, asking, home, stream, split⟩ :=
            (Throughout.at_split paired).ended other false ended
          have among : stop.beside (.started other home (.store stream)) ∈ whole := by
            rw [place, ← List.nil_append (past ++ start :: middle), split]
            simp
          have present : start ∈ whole := by
            rw [place]
            simp
          rw [← accounted.orderly.admitted.started_unique among present rfl started]
          rfl
        have shifted : whole = (past ++ start :: (middle ++ [stop])) ++ (rest ++ future) := by
          rw [place]
          simp
        obtain ⟨first, second, after, home, act, rfl, startedLater, trees⟩ :=
          inductionHypothesis shifted later
        exact ⟨start :: (middle ++ stop :: first), second, after, home, act, by simp, startedLater,
          trees.trans unchanged⟩

/-- Before the completion nobody asks the keeper to store the tree for the stream. -/
theorem asked_before
    (accounted : Accounted number whole)
    (happened : whole = before ++ record :: after)
    (completes : record.completes number = true) :
    asked number before = 0 := by
  rw [asked_eq_zero]
  rintro first storing second rfl root held stored
  have place : whole = first ++ storing :: (second ++ record :: after) := by
    rw [happened]
    simp
  obtain ⟨earlier, action, tree, rfl⟩ := accounted.started_of_stored place stored
  have started : whole = earlier ++ storing.beside (.started action tree (.store number)) ::
      (storing :: (second ++ record :: after)) := by
    rw [place]
    simp
  obtain ⟨-, least, completing, handing, rest, rfl, completesBefore, -⟩ :=
    accounted.handed_of_started started rfl
  have earlierPlace : whole = least ++ completing :: (handing :: (rest ++
      storing.beside (.started action tree (.store number)) ::
        (storing :: (second ++ record :: after)))) := by
    rw [started]
    simp
  have absent := accounted.not_completes_after earlierPlace completesBefore record (by simp)
  rw [completes] at absent
  cases absent

/-- When its errand runs in turn with others, the tree is stored as it was before the first of
them. -/
theorem stored_in_turn
    {action closure : Nat}
    {numbers : List Nat}
    {trees : List Node}
    {block : Trace Errand Occurrence}
    {handing back : Record Errand Occurrence}
    (accounted : Accounted number whole)
    (happened : whole = before ++ handing :: after)
    (handed : handing.moment = .handed action home (.store number))
    (place : whole = past ++ (block ++ back :: future))
    (returned : back.moment = .returned closure)
    (turns : InTurn trees numbers block)
    (present : action ∈ numbers)
    (once : starts action block = 1) :
    ∃ root first start storing last, block = first ++ start :: storing :: last ∧
      trees = [root] ∧ start.moment = .started action home (.store number) ∧
      storing.moment = .noted (.event (.stored (some number) root false)) ∧
      starts action first = 0 ∧ starts action last = 0 := by
  obtain ⟨first, start, second, tree, errand, rfl, started, same⟩ :=
    accounted.start_of_turns turns place present
  have startPlace : whole = (past ++ first) ++ start :: (second ++ back :: future) := by
    rw [place]
    simp
  obtain ⟨rfl, rfl⟩ := accounted.orderly.same_of_started happened handed startPlace started
  obtain ⟨-, root, more, startTrees, split⟩ := accounted.stored_of_started startPlace started
  cases second with
  | nil =>
      obtain ⟨rfl, -⟩ := List.cons_eq_cons.1 split
      cases returned
  | cons storing last =>
      obtain ⟨rfl, -⟩ := List.cons_eq_cons.1 split
      have passed := starts_le_cons action
        (start.beside (.noted (.event (.stored (some number) root false)))) last
      rw [starts_append, starts_cons_of_started _ started] at once
      exact ⟨root, first, start, _, last, rfl, same.symm.trans startTrees, started, rfl, by omega,
        by omega⟩

/-- What becomes of the errand of a stream becomes of its tree. -/
theorem storage_of_fate
    {action : Nat}
    {handing : Record Errand Occurrence}
    {rest : Trace Errand Occurrence}
    {outermost : Option Nat}
    (accounted : Accounted number whole)
    (happened : whole = before ++ record :: handing :: rest)
    (completes : record.completes number = true)
    (beside : handing = record.beside (.handed action home (.store number)))
    (fate : Fate action home (.store number) (before ++ [record]) handing outermost rest) :
    Storage number record outermost (handing :: rest) := by
  have handed : handing.moment = .handed action home (.store number) := by
    rw [beside]
    rfl
  have only : ∀ past start future other tree, whole = past ++ start :: future →
      start.moment = .started other tree (.store number) → other = action := by
    intro past start future other tree starting started
    exact accounted.started_unique happened completes handed starting started
  have place : whole = (before ++ [record]) ++ handing :: rest := by
    rw [happened]
    simp
  have unasked : ∀ inner outer, rest = inner ++ outer → starts action inner = 0 →
      asked number (handing :: inner) = 0 := by
    intro inner outer split none
    have handingPlace : whole = (before ++ [record]) ++ handing :: (inner ++ outer) := by
      rw [place, split]
    have silent : handing.stores number = false := by simp [Record.stores, handed]
    have idle : handing.starts action = false := by simp [Record.starts, handed]
    rw [asked_cons_of_not_stores inner silent]
    exact accounted.asked_eq_zero_of_starts only handingPlace idle none
  cases fate with
  | @atOnce start rest started trees none =>
      have startPlace : whole = (before ++ [record, handing]) ++ start :: rest := by
        rw [happened]
        simp
      obtain ⟨-, root, more, startTrees, rfl⟩ := accounted.stored_of_started startPlace started
      set storing := start.beside (.noted (.event (.stored (some number) root false)))
      set ending := start.beside (.ended action false)
      have silent : eventsOf [handing, start] = [] := by
        simp [eventsOf, notes, handed, started]
      have recordTrees : record.trees = [root] := by
        rw [← startTrees, trees, beside]
        rfl
      have storingPlace : whole = (before ++ [record, handing, start]) ++
          storing :: ((ending :: more) ++ []) := by
        rw [startPlace]
        simp
      exact .atOnce recordTrees silent rfl
        (accounted.asked_eq_zero_of_starts only storingPlace rfl none)
  | @dropped closure leaving inner rest left early late =>
      have restPlace :
          whole = (before ++ record :: handing :: inner) ++ leaving :: (rest ++ []) := by
        rw [place]
        simp
      have idle : leaving.starts action = false := by simp [Record.starts, left]
      exact .dropped left (unasked inner _ rfl early)
        (accounted.asked_eq_zero_of_starts only restPlace idle late)
  | @deferred closure leaving back inner block rest left early present turns once returned late =>
      rw [List.append_assoc, List.singleton_append] at present turns
      have blockPlace : whole = (before ++ record :: handing :: (inner ++ [leaving])) ++
          (block ++ back :: rest) := by
        rw [place]
        simp
      obtain ⟨root, first, start, storing, last, rfl, trees, started, stored, none, noneLater⟩ :=
        accounted.stored_in_turn place handed blockPlace returned turns present once
      have unaskedFirst : asked number (first ++ [start]) = 0 := by
        have firstPlace : whole = (before ++ record :: handing :: inner) ++ leaving ::
            (first ++ start :: storing :: (last ++ back :: rest)) := by
          rw [blockPlace]
          simp
        have idle : leaving.starts action = false := by simp [Record.starts, left]
        have silent : start.stores number = false := by simp [Record.stores, started]
        rw [asked, List.countP_append]
        exact Nat.add_eq_zero_iff.2
          ⟨accounted.asked_eq_zero_of_starts only firstPlace idle none,
            asked_cons_of_not_stores [] silent⟩
      have unaskedLater : asked number (last ++ back :: rest) = 0 := by
        have lastPlace : whole = (before ++ record :: handing :: (inner ++ leaving ::
            (first ++ [start]))) ++ storing :: ((last ++ back :: rest) ++ []) := by
          rw [blockPlace]
          simp
        have idle : storing.starts action = false := by simp [Record.starts, stored]
        have backIdle : back.starts action = false := by simp [Record.starts, returned]
        apply accounted.asked_eq_zero_of_starts only lastPlace idle
        rw [starts_append, starts_cons_of_not_starts rest backIdle, noneLater, late]
      have result : Storage number record (some closure)
          ((handing :: inner) ++ leaving ::
            ((first ++ [start]) ++ storing :: (last ++ back :: rest))) :=
        .deferred left trees stored returned (unasked inner _ rfl early) unaskedFirst unaskedLater
      simpa using result

/-- After the completion the tree is stored at once, or when the outermost closure of the tree
is left normally. -/
theorem storage
    (accounted : Accounted number whole)
    (happened : whole = before ++ record :: after)
    (completes : record.completes number = true) :
    Storage number record (outermost? record.thread home before) after := by
  have paired := accounted.paired
  have orderly := accounted.orderly
  have returning := returning_of_paired paired
  rw [happened] at paired
  obtain ⟨action, rest, rfl⟩ := (Throughout.at_split paired).completed number completes rfl
  set handing := record.beside (.handed action home (.store number)) with handingDef
  have place : whole = (before ++ [record]) ++ handing :: rest := by
    rw [happened]
    simp
  have quiet : outermost? handing.thread home (before ++ [record]) =
      outermost? record.thread home before := by
    obtain ⟨report, moment, -⟩ := Record.completes_eq_true.1 completes
    have enters : record.entering? handing.thread = none := by
      simp [Record.entering?, moment]
    have leaves : ∀ closure, record.leaves closure = false := by
      simp [Record.leaves, moment]
    rw [outermost?, inside_concat_of_quiet before enters leaves]
    rfl
  rw [place] at orderly returning
  have fate := orderly.fate returning (rfl : handing.moment = .handed action home (.store number))
  rw [quiet] at fate
  exact accounted.storage_of_fate happened completes handingDef fate

/-- Whenever the keeper is asked for a stream, its completion has reached the caller, and the
thread that brought it there is in no closure of the tree. -/
theorem outside_of_stored
    {root : Node}
    {held : Bool}
    (accounted : Accounted number whole)
    (happened : whole = before ++ record :: after)
    (stored : record.moment = .noted (.event (.stored (some number) root held))) :
    record.trees = [root] ∧ held = false ∧ outermost? record.thread home before = none ∧
      ∃ completing ∈ before,
        completing.completes number = true ∧ completing.thread = record.thread := by
  obtain ⟨earlier, action, tree, rfl⟩ := accounted.started_of_stored happened stored
  set starting := record.beside (.started action tree (.store number)) with startingDef
  have started : starting.moment = .started action tree (.store number) := rfl
  have place : whole = earlier ++ starting :: (record :: after) := by
    rw [happened]
    simp
  obtain ⟨outside, other, rest, trees, split⟩ := accounted.stored_of_started place started
  obtain ⟨-, first, completing, handing, second, rfl, completes, thread, -⟩ :=
    accounted.handed_of_started place started
  have moment := congrArg Record.moment (List.cons_eq_cons.1 split).1
  rw [stored] at moment
  obtain ⟨rfl, rfl⟩ : root = other ∧ held = false := by
    simpa [Record.beside] using moment
  refine ⟨trees, rfl, ?_, completing, by simp, completes, thread⟩
  have enters : starting.entering? record.thread = none := by
    simp [Record.entering?, started]
  have leaves : ∀ closure, starting.leaves closure = false := by
    simp [Record.leaves, started]
  rw [outermost?, inside_concat_of_quiet _ enters leaves]
  exact outside

end Accounted

/-! ## Controllers that have been started -/

section

variable
  {settings : Settings} {tree : Node} {keeper : Keeper} {factory : ContextFactory}
  {invoker : Invoker} {files : Files} {uses : List Use} {number : Nat} {stream : Stream}

/-- The trace of a controller whose keeper does not panic, for a stream whose caller does
not. -/
theorem accounted_after
    (returns : keeper.Returns)
    (opened : ((start settings tree keeper factory invoker files).after uses).streams[number]? =
      some stream)
    (calm : ∀ past report, stream.react past report = none) :
    Accounted number
      (trace ((start settings tree keeper factory invoker files).after uses)) := by
  set started := start settings tree keeper factory invoker files
  have moves := after_related (goes_kept 0) uses started (Nat.zero_le _)
  refine ⟨?_, ?_, ?_⟩
  · obtain ⟨segment, continues⟩ :=
      after_related proceeds_kept uses started (Standing.start (ν := Occurrence))
    rw [continues.trace_eq]
    exact continues.orderly
  · have callers : Calm (· = number) (started.after uses).streams := by
      rintro other caller found rfl
      obtain rfl : stream = caller := Option.some.inj (opened.symm.trans found)
      exact calm
    obtain ⟨segment, grown, paired⟩ := paired_of_moves moves returns callers
    rw [grown]
    exact paired
  · intro before record after happened completes
    have faithful : Faithful number started (started.after uses) :=
      (faithful_of_unopened rfl).goes moves
    have delivers := faithful.delivers
    rw [since_of_trace_eq_nil _ rfl, happened, List.append_cons, eventsOf_append, eventsOf_append,
      deliveredIn_append, deliveredIn_append] at delivers
    obtain ⟨report, moment, complete⟩ := Record.completes_eq_true.1 completes
    have one : deliveredIn number (eventsOf [record]) = [report] := by
      simp [deliveredIn, eventsOf, notes, moment]
    rw [one, List.append_assoc, List.singleton_append] at delivers
    apply Report.eq_nil_of_untilEnd delivers.symm
    cases report <;> first | rfl | cases complete

/-- What the keeper of a controller has done for the trace of the controller, however that has been
used since it was started. -/
theorem served_after :
    keeper.Served ⟨files, []⟩
      (trace ((start settings tree keeper factory invoker files).after uses))
      ((start settings tree keeper factory invoker files).after uses).custody :=
  served_since (after_related (goes_kept 0) uses (start settings tree keeper factory invoker files)
    (Nat.zero_le _))

/-- The tree is stored for every execution that succeeds, however a controller has been used
since it was started.  Whenever the trace says that the keeper was asked, it got the tree as it
was then: an archive has stored it in its file, and any other keeper has responded to it.  For a
keeper that does not panic, whether it accepts the tree or not, the following holds.  As long as
the caller of a stream has got no completion, the keeper is not asked for it.  Once a completion
reaches the caller, nothing else does, and the keeper is asked once: at once, or when the
outermost closure of the tree around the completion is left, and never when that closure unwinds.
Whenever the keeper is asked, it gets the whole tree after the caller got the completion, and the
thread that reported it is in no closure of the tree. -/
theorem execution_storage
    (opened : ((start settings tree keeper factory invoker files).after uses).streams[number]? =
      some stream)
    (calm : ∀ past report, stream.react past report = none) :
    let later := (start settings tree keeper factory invoker files).after uses
    keeper.Served ⟨files, []⟩ (trace later) later.custody ∧
      (keeper.Returns →
        ((∀ record ∈ trace later, record.completes number = false) →
            asked number (trace later) = 0) ∧
          (∀ before record after, trace later = before ++ record :: after →
            record.completes number = true →
              asked number before = 0 ∧ deliveredIn number (eventsOf after) = [] ∧
                Storage number record (outermost? record.thread home before) after) ∧
          ∀ before record after root held, trace later = before ++ record :: after →
            record.moment = .noted (.event (.stored (some number) root held)) →
              record.trees = [root] ∧ held = false ∧
                outermost? record.thread home before = none ∧
                ∃ completing ∈ before,
                  completing.completes number = true ∧ completing.thread = record.thread) := by
  intro later
  refine ⟨served_after, fun returns => ?_⟩
  have accounted : Accounted number (trace later) := accounted_after returns opened calm
  refine ⟨?_, ?_, ?_⟩
  · intro incomplete
    rw [asked_eq_zero]
    intro before record after happened root held stored
    obtain ⟨-, -, -, completing, present, completes, -⟩ :=
      accounted.outside_of_stored happened stored
    have absent := incomplete completing (by rw [happened]; simp [present])
    rw [completes] at absent
    cases absent
  · intro before record after happened completes
    exact ⟨accounted.asked_before happened completes, accounted.last _ _ _ happened completes,
      accounted.storage happened completes⟩
  · intro before record after root held happened stored
    exact accounted.outside_of_stored happened stored

end

/-- A controller whose keeper refuses every tree. -/
def refusing : Controller :=
  withKeeper (.custom fun _ => .refused (.refused "full")) Files.empty

/-- A handler is registered that completes within a closure and edits the tree afterwards, and
a request for it is executed. -/
def completingEarly : List Use :=
  [.register Address.root "edit"
      ⟨"early", .inline [.update [.report (.complete .null), .set ["x"] (.bool true)]] false⟩,
    .execute Reaction.calm (.object [("operation", .text "edit")])]

/-- The keeper that refuses the tree gets it once, as the closure has left it. -/
theorem execution_storage_refusing :
    (refusing.after completingEarly).custody.received = [.object [("x", .bool true)]] ∧
      ∃ before record after, trace (refusing.after completingEarly) = before ++ record :: after ∧
        record.completes 0 = true ∧ asked 0 before = 0 ∧ Storage 0 record (some 2) after := by
  obtain ⟨before, record, after, happened, completes, outermost⟩ :
      ∃ before record after,
        trace (refusing.after completingEarly) = before ++ record :: after ∧
          record.completes 0 = true ∧ outermost? record.thread home before = some 2 :=
    ⟨[_, _, _, _], _, _, rfl, rfl, rfl⟩
  obtain ⟨stream, opened, calm⟩ : ∃ stream,
      (refusing.after completingEarly).streams[0]? = some stream ∧
        ∀ past report, stream.react past report = none :=
    ⟨_, rfl, fun _ _ => rfl⟩
  have returns : refusing.keeper.Returns := fun _ _ => nofun
  obtain ⟨served, accounts⟩ := execution_storage opened calm
  obtain ⟨-, completed, -⟩ := accounts returns
  obtain ⟨unasked, -, storage⟩ := completed before record after happened completes
  rw [outermost] at storage
  exact ⟨served.received, before, record, after, happened, completes, unasked, storage⟩

end Controller
end ManagedTree
