import ManagedTree.Blocking

/-!
# What reports give to a caller who waits

The first report that ends the operation decides what a blocking call gives.  The
fragments before it make up the result, and nothing after it counts.
-/

namespace ManagedTree

namespace Report

/-- The node with a fragment put in its place. -/
def placed (node : Node) : Report → Node
  | .fragment place value => Node.set place value node
  | _ => node

/-- The node that fragments make up when each is put in its place, in order, from null. -/
def assemble (reports : List Report) : Node :=
  reports.foldl placed .null

/-- The reports before the first that ends the operation. -/
def beforeEnd (reports : List Report) : List Report :=
  reports.takeWhile fun report => !report.isTerminal

/-- What reports give to a caller who waits: nothing as long as none of them ends the
operation, and then what the first that does so says. -/
def verdict (reports : List Report) : Option (Except BlockingError Node) :=
  match reports.find? isTerminal with
  | some (.complete _) => some (.ok (assemble (beforeEnd reports)))
  | some (.failed failure) => some (.error (.failed failure))
  | some .cancelled => some (.error .cancelled)
  | _ => none

/-- There is a verdict exactly when a report ends the operation. -/
theorem verdict_eq_none_iff
    {reports : List Report} :
    verdict reports = none ↔ ∀ report ∈ reports, report.isTerminal = false := by
  rw [verdict]
  cases found : reports.find? isTerminal with
  | none => simpa using found
  | some report =>
      have terminal := List.find?_some found
      have present := List.mem_of_find?_eq_some found
      have ended : ¬ ∀ report ∈ reports, report.isTerminal = false := by
        intro unended
        rw [unended report present] at terminal
        cases terminal
      cases report with
      | fragment place value => cases terminal
      | _ => simp [ended]

end Report

namespace Gathering

/-- Gathering from the end on changes nothing. -/
theorem foldl_receive_of_ended
    {gathering : Gathering}
    {outcome : Outcome}
    (ended : gathering.outcome = some outcome)
    (reports : List Report) :
    reports.foldl receive gathering = gathering := by
  induction reports with
  | nil => rfl
  | cons report reports inductionHypothesis =>
      rw [List.foldl_cons, receive_of_ended ended, inductionHypothesis]

/-- What is gathered are the fragments before the end, and the end. -/
theorem foldl_receive
    (node : Node)
    (reports : List Report) :
    reports.foldl receive ⟨node, none⟩ =
      ⟨(Report.beforeEnd reports).foldl Report.placed node,
        (reports.find? Report.isTerminal).bind Report.outcome?⟩ := by
  induction reports generalizing node with
  | nil => rfl
  | cons report reports inductionHypothesis =>
      cases report with
      | fragment place value =>
          exact inductionHypothesis (Node.set place value node)
      | _ => exact foldl_receive_of_ended rfl reports

/-- What has been gathered from reports gives the caller their verdict. -/
theorem answer?_ofReports (reports : List Report) :
    (ofReports reports).answer? = Report.verdict reports := by
  rw [ofReports, start, foldl_receive, Report.verdict, answer?]
  cases reports.find? Report.isTerminal with
  | none => rfl
  | some report => cases report <;> rfl

end Gathering
end ManagedTree
