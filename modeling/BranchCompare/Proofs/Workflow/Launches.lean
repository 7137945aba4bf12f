import BranchCompare.Proofs.Workflow.Runs

/-!
# The history of the page and what is launched

In every run of a session on a page without a history, the history lists the URLs that launches and
comparisons of change requests have given back, and each launch compares two branches that were
fetched for the repository that is selected at this moment.
-/

namespace BranchCompare.Session

/-- The page is led to the URLs that launches and operations give back, in their order, and to no
other one.  What a launch gives back is the URL of the comparison of two branches that were fetched
for the selected repository. -/
theorem history_of_run {parts : Parts} {session : Session} (hmake : make parts = .ok session)
    {limit : Seconds} {ready : List (String × Reply)} (hcache : parts.cache = .fresh limit ready)
    {start : String} (hpage : parts.page = .ofUrl start) (events : List FlowEvent) :
    (session.after events).page.history = session.returnedBy events ∧
      ∀ url, (session.after events).launched? = some url → (session.after events).Compares url := by
  obtain ⟨hsound, hsame⟩ := sound_of_make hmake hcache
  have hmoves := hsound.after events
  refine ⟨?_, hmoves.sound.launch.2⟩
  rw [hmoves.history, hsame, hpage]
  rfl

/-- A repository is selected, its branches come in, and one of them is picked. -/
def picked : List FlowEvent :=
  [.begin (.selectRepo "polkadot"), .turn 0, .turn 0, .turn 0,
    .answerFetch 0 (.answer [⟨"master", "a1"⟩, ⟨"gav-xcm", "b2"⟩]), .turn 0, .turn 0, .turn 0,
    .turn 0, .turn 0, .turn 0, .pick .new (some "gav-xcm")]

theorem history_of_run_picked : ∃ session url, make standardParts = .ok session ∧
    (session.after picked).launched? = some url ∧ (session.after picked).Compares url ∧
    (session.after (picked ++ [.launch])).page.history =
      session.returnedBy (picked ++ [.launch]) := by
  have hlaunches : ((make standardParts).toOption.any fun session =>
      (session.after picked).launched?.isSome) = true := by decide +kernel
  cases hmake : make standardParts with
  | error missing =>
    rw [hmake] at hlaunches
    cases hlaunches
  | ok session =>
    simp only [hmake, Except.toOption, Option.any_some] at hlaunches
    obtain ⟨url, hurl⟩ := Option.isSome_iff_exists.mp hlaunches
    have hcache : standardParts.cache = .fresh (.whole 30) [] := rfl
    have hpage : standardParts.page = .ofUrl "/" := rfl
    obtain ⟨-, hcompares⟩ := history_of_run hmake hcache hpage picked
    obtain ⟨hhistory, -⟩ := history_of_run hmake hcache hpage (picked ++ [.launch])
    exact ⟨session, url, rfl, hurl, hcompares url hurl, hhistory⟩

end BranchCompare.Session
