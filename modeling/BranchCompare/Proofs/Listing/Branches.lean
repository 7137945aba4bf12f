import Mathlib.Data.List.Forall2
import BranchCompare.Listing.Branches

/-!
# What a listing of branches comes to

An answer of the branch server lists branches if its status is one of success and its body is an
object with an array of pairs under `branch` (`Holds`); the branches are those of the pairs, in
their order.  Any other answer makes the listing fail for its repository, and so does a transport
that gives none.  One kind of answer is no failure but a crash: a redirection to a place that cannot
be put together with the address of the request (`Strays`).  `branches_outcome` says that there is
nothing else.
-/

namespace BranchCompare

namespace Branch

/-- The value is a pair, and the branch has its two values as texts. -/
def IsOf (value : Json) (branch : Branch) : Prop :=
  ∃ name commit, value = .array [name, commit] ∧ branch = ⟨name.plainText, commit.plainText⟩

/-- A value is read as a branch if it is a pair of its name and its commit. -/
theorem ofPair_eq_ok_iff {value : Json} {branch : Branch} :
    ofPair value = .ok branch ↔ IsOf value branch := by
  constructor
  · intro h
    unfold ofPair at h
    split at h
    · next name commit =>
      obtain rfl := Except.ok.inj h
      exact ⟨name, commit, rfl, rfl⟩
    · cases h
  · rintro ⟨name, commit, rfl, rfl⟩
    rfl

/-- Values are read as branches one by one. -/
theorem ofPairs_eq_ok_iff {values : List Json} {branches : List Branch} :
    ofPairs values = .ok branches ↔ List.Forall₂ IsOf values branches := by
  induction values generalizing branches with
  | nil =>
    rw [List.forall₂_nil_left_iff]
    exact ⟨fun h => (Except.ok.inj h).symm, fun h => congrArg Except.ok h.symm⟩
  | cons value values ih =>
    rw [List.forall₂_cons_left_iff, ofPairs]
    cases hpair : ofPair value with
    | error error =>
      constructor
      · intro h
        cases h
      · rintro ⟨branch, rest, hbranch, -, -⟩
        cases hpair.symm.trans (ofPair_eq_ok_iff.mpr hbranch)
    | ok branch =>
      cases hpairs : ofPairs values with
      | error error =>
        constructor
        · intro h
          cases h
        · rintro ⟨other, rest, -, hrest, -⟩
          cases hpairs.symm.trans (ih.mpr hrest)
      | ok rest =>
        constructor
        · intro h
          obtain rfl := Except.ok.inj h
          exact ⟨branch, rest, ofPair_eq_ok_iff.mp hpair, ih.mp hpairs, rfl⟩
        · rintro ⟨other, others, hother, hothers, rfl⟩
          obtain rfl := Except.ok.inj (hpair.symm.trans (ofPair_eq_ok_iff.mpr hother))
          obtain rfl := Except.ok.inj (hpairs.symm.trans (ih.mpr hothers))
          rfl

end Branch

namespace Listing

open Http

/-! ## Answers -/

/-- The answer lists the branches. -/
structure Holds (response : Response) (list : List Branch) : Prop where
  success : 200 ≤ response.status ∧ response.status ≤ 299
  body : ∃ fields pairs, Json.readOctets response.body = .ok (.object fields) ∧
    OrderedMap.get? "branch" fields = some (.array pairs) ∧ List.Forall₂ Branch.IsOf pairs list

/-- The answer redirects to a place that has no address beside that of the request. -/
def Strays (request : Request) (response : Response) (fault : AddressFault) : Prop :=
  ∃ location, Client.redirection? response = some location ∧
    Client.redirectedTo request location = .error (.address fault)

/-- A request for what is at the path is made, and answers to it can be taken in. -/
structure Accepts (client : Client) (path : String) (params : List Form.Pair) (request : Request) :
    Prop where
  made : client.requestTo path params = .ok request
  answered : Client.checkAnswered request.url = .ok ()

/-- The head of an answer is in ASCII. -/
def PlainHead (outcome : Outcome) : Prop :=
  ∀ response, outcome = .response response →
    Text.checkAscii (response.location.getD "").toList = .ok ()

/-- Success is told by the two hundreds. -/
theorem isSuccess_iff (status : Nat) :
    Client.isSuccess status = true ↔ 200 ≤ status ∧ status ≤ 299 := by
  unfold Client.isSuccess
  rw [Bool.and_eq_true, decide_eq_true_iff, decide_eq_true_iff]

/-- An answer of success redirects nowhere. -/
theorem redirection?_of_success {response : Response}
    (h : 200 ≤ response.status ∧ response.status ≤ 299) : Client.redirection? response = none := by
  refine if_neg fun hredirects => ?_
  rw [List.contains_iff_mem] at hredirects
  have hlarge : ∀ status ∈ Client.redirections, 300 < status := by decide
  have := hlarge _ hredirects
  omega

theorem Holds.unique {response : Response} {list other : List Branch} (h : Holds response list)
    (h' : Holds response other) : list = other := by
  obtain ⟨fields, pairs, hread, hpairs, hlist⟩ := h.body
  obtain ⟨fields', pairs', hread', hpairs', hother⟩ := h'.body
  obtain rfl := Json.object.inj (Except.ok.inj (hread.symm.trans hread'))
  obtain rfl := Json.array.inj (Option.some.inj (hpairs.symm.trans hpairs'))
  have hread := Branch.ofPairs_eq_ok_iff.mpr hlist
  exact Except.ok.inj (hread.symm.trans (Branch.ofPairs_eq_ok_iff.mpr hother))

theorem Holds.not_strays {request : Request} {response : Response} {list : List Branch}
    (h : Holds response list) (fault : AddressFault) : ¬ Strays request response fault := by
  rintro ⟨location, hlocation, -⟩
  cases (redirection?_of_success h.success).symm.trans hlocation

theorem Strays.unique {request : Request} {response : Response} {fault other : AddressFault}
    (h : Strays request response fault) (h' : Strays request response other) : fault = other := by
  obtain ⟨location, hlocation, hplace⟩ := h
  obtain ⟨location', hlocation', hplace'⟩ := h'
  obtain rfl := Option.some.inj (hlocation.symm.trans hlocation')
  exact SendError.address.inj (Except.error.inj (hplace.symm.trans hplace'))

/-- A value answers with the branches of its list, if all of its pairs are branches. -/
theorem branchesOf_eq_answer_iff {repo : String} {value : Json} {list : List Branch} :
    branchesOf repo value = .answer list ↔ ∃ fields pairs, value = .object fields ∧
      OrderedMap.get? "branch" fields = some (.array pairs) ∧
      List.Forall₂ Branch.IsOf pairs list := by
  constructor
  · intro h
    unfold branchesOf at h
    dsimp only at h
    split at h
    · next pairs hlisted =>
      split at h
      · next branches hbranches =>
        obtain rfl := CallEnd.answer.inj h
        split at hlisted
        · next fields => exact ⟨fields, pairs, rfl, hlisted, Branch.ofPairs_eq_ok_iff.mp hbranches⟩
        · cases hlisted
      · cases h
    · cases h
  · rintro ⟨fields, pairs, rfl, hlisted, hbranches⟩
    simp only [branchesOf, hlisted, Branch.ofPairs_eq_ok_iff.mpr hbranches]

/-- A value lists branches, or the listing fails for its repository. -/
theorem branchesOf_cases (repo : String) (value : Json) :
    (∃ list, branchesOf repo value = .answer list) ∨
      ∃ reason, branchesOf repo value = .unavailable ⟨repo, reason⟩ := by
  unfold branchesOf
  dsimp only
  split
  · split
    · exact .inl ⟨_, rfl⟩
    · exact .inr ⟨_, rfl⟩
  · exact .inr ⟨_, rfl⟩

/-! ## Exchanges -/

variable {S : Type} {client : Client} {transport : Transport S} {request : Request}
  {response : Response} {outcome : Outcome} {state after : S} {repo path : String}
  {params : List Form.Pair} {looksForNews : Bool}

theorem followsRedirections_branchClient {base : String} {timeout : Seconds}
    (h : branchClient base timeout = .ok client) : client.followsRedirections = false := by
  unfold branchClient Client.make at h
  cases hbase : (Client.baseOf base).mapError ClientFault.address with
  | error fault =>
    rw [hbase] at h
    cases h
  | ok base =>
    rw [hbase] at h
    obtain rfl := Except.ok.inj h
    rfl

/-- A client that does not follow redirections takes in the answer to its request. -/
theorem get_response (hfollows : client.followsRedirections = false)
    (hmade : client.requestTo path params = .ok request)
    (hsent : transport request state = (.response response, after)) :
    (client.get transport path params state).result =
      (Client.takeIn request response).map fun _ => response := by
  have hexchange : client.exchange transport request state =
      (.inl ((Client.takeIn request response).map fun _ => response), after) := by
    unfold Client.exchange Client.afterResponse
    rw [hsent]
    dsimp only
    split
    · next heq => rw [heq]; rfl
    · next heq => rw [heq]; rfl
    · next heq => rw [heq, hfollows]; rfl
  unfold Client.get
  simp only [hmade]
  unfold Client.send
  rw [hexchange]

/-- A request that is not answered ends with what went wrong. -/
theorem get_failure {message : String} (hmade : client.requestTo path params = .ok request)
    (hsent : transport request state = (.failure message, after)) :
    (client.get transport path params state).result =
      .error (.request (.transport message)) := by
  have hexchange : client.exchange transport request state =
      (.inl (.error (.request (.transport message))), after) := by
    unfold Client.exchange
    rw [hsent]
  unfold Client.get
  simp only [hmade]
  unfold Client.send
  rw [hexchange]

/-- Of an answer with a plain head only the place that it redirects to is looked at. -/
theorem takeIn_eq (hanswered : Client.checkAnswered request.url = .ok ())
    (hhead : Text.checkAscii (response.location.getD "").toList = .ok ()) :
    Client.takeIn request response =
      match Client.redirection? response with
      | some location => do
        return some (← Client.redirected request (← Client.redirectedTo request location))
      | none => .ok none := by
  unfold Client.takeIn
  rw [hhead, hanswered]
  rfl

/-- Whether a request can be sent on to an address is no question of addresses. -/
theorem redirected_ne (request : Request) (url : Address) (fault : AddressFault) :
    Client.redirected request url ≠ .error (.address fault) := by
  unfold Client.redirected
  cases request.url.neighbourhood url with
  | error error => exact nofun
  | ok relation =>
    unfold Client.checkPlace
    cases Text.checkAscii url.place.toList <;> cases relation <;> exact nofun

/-- A response that is taken in strays if its location cannot be followed. -/
theorem takeIn_eq_address_iff (hanswered : Client.checkAnswered request.url = .ok ())
    (hhead : Text.checkAscii (response.location.getD "").toList = .ok ()) {fault : AddressFault} :
    Client.takeIn request response = .error (.address fault) ↔ Strays request response fault := by
  rw [takeIn_eq hanswered hhead]
  unfold Strays
  cases hlocation : Client.redirection? response with
  | none => exact ⟨nofun, fun ⟨_, h, _⟩ => nomatch h⟩
  | some location =>
    simp only [Option.some.injEq, exists_eq_left']
    cases hplace : Client.redirectedTo request location with
    | error error =>
      exact ⟨fun h => congrArg _ (Except.error.inj h), fun h => congrArg _ (Except.error.inj h)⟩
    | ok url =>
      refine ⟨fun h => ?_, nofun⟩
      have hsent := redirected_ne request url fault
      cases hredirected : Client.redirected request url with
      | ok next =>
        simp only [bind, Except.bind, hredirected] at h
        cases h
      | error error =>
        simp only [bind, Except.bind, hredirected] at h
        exact absurd (hredirected.trans (congrArg _ (Except.error.inj h))) hsent

/-! ## Listings -/

/-- What a listing of the branches of the repository comes to. -/
inductive Comes (request : Request) (repo : String) : Outcome → CallEnd (List Branch) → Prop where
  | lists {response : Response} {list : List Branch} (h : Holds response list) :
      Comes request repo (.response response) (.answer list)
  | strays {response : Response} {fault : AddressFault} (h : Strays request response fault) :
      Comes request repo (.response response) (.crashed (.address fault))
  | refuses {response : Response} {reason : String} (hholds : ∀ list, ¬ Holds response list)
      (hstrays : ∀ fault, ¬ Strays request response fault) :
      Comes request repo (.response response) (.unavailable ⟨repo, reason⟩)
  | lost {message reason : String} :
      Comes request repo (.failure message) (.unavailable ⟨repo, reason⟩)

/-- A response answers with the list that it holds, or it is unavailable. -/
theorem endOf_response (repo : String) (response : Response) :
    (∃ list, Holds response list ∧ endOf repo (branchesOf repo) (.ok response) = .answer list) ∨
      (∀ list, ¬ Holds response list) ∧
        ∃ reason, endOf repo (branchesOf repo) (.ok response) = .unavailable ⟨repo, reason⟩ := by
  by_cases hsuccess : Client.isSuccess response.status = true
  · simp only [endOf, valueOf, if_pos hsuccess]
    cases hbody : Json.readOctets response.body with
    | error error =>
      refine .inr ⟨fun list h => ?_, _, rfl⟩
      obtain ⟨fields, pairs, hread, -, -⟩ := h.body
      cases hbody.symm.trans hread
    | ok value =>
      show (∃ list, Holds response list ∧ branchesOf repo value = .answer list) ∨
        _ ∧ ∃ reason, branchesOf repo value = .unavailable ⟨repo, reason⟩
      rcases branchesOf_cases repo value with ⟨list, hlist⟩ | ⟨reason, hreason⟩
      · obtain ⟨fields, pairs, rfl, hpairs⟩ := branchesOf_eq_answer_iff.mp hlist
        exact .inl ⟨list, ⟨(isSuccess_iff _).mp hsuccess, fields, pairs, hbody, hpairs⟩, hlist⟩
      · refine .inr ⟨fun list h => ?_, reason, hreason⟩
        obtain ⟨fields, pairs, hread, hpairs⟩ := h.body
        obtain rfl := Except.ok.inj (hbody.symm.trans hread)
        cases hreason.symm.trans (branchesOf_eq_answer_iff.mpr ⟨fields, pairs, rfl, hpairs⟩)
  · simp only [endOf, valueOf, if_neg hsuccess]
    exact .inr ⟨fun list h => hsuccess ((isSuccess_iff _).mpr h.success), _, rfl⟩

/-- The answer, or what the transport says in its place, decides what the listing comes to. -/
theorem branches_comes (hfollows : client.followsRedirections = false)
    (haccepts : Accepts client "/branches" (branchParams repo looksForNews) request)
    (hsent : transport request state = (outcome, after)) (hhead : PlainHead outcome) :
    Comes request repo outcome (branches client transport repo looksForNews state).result := by
  cases outcome with
  | failure message =>
    have hlost : (branches client transport repo looksForNews state).result =
        endOf repo (branchesOf repo) (.error (.request (.transport message))) :=
      congrArg (endOf repo (branchesOf repo)) (get_failure haccepts.made hsent)
    rw [hlost]
    exact .lost
  | response response =>
    have hresult : (branches client transport repo looksForNews state).result =
        endOf repo (branchesOf repo) ((Client.takeIn request response).map fun _ => response) :=
      congrArg (endOf repo (branchesOf repo)) (get_response hfollows haccepts.made hsent)
    have hhead := hhead response rfl
    have hstrays : ∀ fault, Client.takeIn request response = .error (.address fault) ↔
        Strays request response fault := fun _ => takeIn_eq_address_iff haccepts.answered hhead
    rw [hresult]
    cases htaken : Client.takeIn request response with
    | ok next =>
      rcases endOf_response repo response with ⟨list, hholds, hlist⟩ | ⟨hholds, reason, hreason⟩
      · exact hlist ▸ .lists hholds
      · refine hreason ▸ .refuses hholds fun fault h => ?_
        cases htaken.symm.trans ((hstrays fault).mpr h)
    | error error =>
      -- only an answer that redirects is not taken in, and that is none of success
      have hholds : ∀ list, ¬ Holds response list := by
        intro list h
        rw [takeIn_eq haccepts.answered hhead, redirection?_of_success h.success] at htaken
        cases htaken
      have hother : (∀ fault, error ≠ .address fault) →
          ∀ fault, ¬ Strays request response fault := by
        intro hne fault h
        exact hne fault (Except.error.inj (htaken.symm.trans ((hstrays fault).mpr h)))
      cases error with
      | address fault => exact .strays ((hstrays fault).mp htaken)
      | request failure => exact .refuses hholds (hother nofun)
      | exchange fault => exact .refuses hholds (hother nofun)

/-- A listing gives branches just if the answer lists them.  It crashes just if the answer redirects
to a place that has no address, and in every other case it fails for its repository. -/
theorem branches_outcome {base : String} {timeout : Seconds}
    (hclient : branchClient base timeout = .ok client)
    (haccepts : Accepts client "/branches" (branchParams repo looksForNews) request)
    (hsent : transport request state = (outcome, after)) (hhead : PlainHead outcome) :
    let result := (branches client transport repo looksForNews state).result
    (∀ list, result = .answer list ↔
      ∃ response, outcome = .response response ∧ Holds response list) ∧
    (∀ crash, result = .crashed crash ↔ ∃ response fault, outcome = .response response ∧
      Strays request response fault ∧ crash = .address fault) ∧
    ((∀ list, result ≠ .answer list) → (∀ crash, result ≠ .crashed crash) →
      ∃ reason, result = .unavailable ⟨repo, reason⟩) := by
  have hfollows := followsRedirections_branchClient hclient
  have hcomes := branches_comes hfollows haccepts hsent hhead
  generalize (branches client transport repo looksForNews state).result = result at hcomes
  cases hcomes with
  | @lists response list h =>
    refine ⟨fun other => ⟨?_, ?_⟩, fun crash => ⟨nofun, ?_⟩, fun hnone => absurd rfl (hnone list)⟩
    · intro hsame
      obtain rfl := CallEnd.answer.inj hsame
      exact ⟨response, rfl, h⟩
    · rintro ⟨_, ⟨⟩, hother⟩
      exact congrArg _ (h.unique hother)
    · rintro ⟨_, fault, ⟨⟩, hstrays, -⟩
      exact absurd hstrays (h.not_strays fault)
  | @strays response fault h =>
    refine ⟨fun list => ⟨nofun, ?_⟩, fun crash => ⟨?_, ?_⟩, fun _ hnone => absurd rfl (hnone _)⟩
    · rintro ⟨_, ⟨⟩, hholds⟩
      exact absurd h (hholds.not_strays fault)
    · intro hsame
      exact ⟨response, fault, rfl, h, (CallEnd.crashed.inj hsame).symm⟩
    · rintro ⟨_, other, ⟨⟩, hother, rfl⟩
      rw [h.unique hother]
  | @refuses response reason hholds hstrays =>
    refine ⟨fun list => ⟨nofun, ?_⟩, fun crash => ⟨nofun, ?_⟩, fun _ _ => ⟨reason, rfl⟩⟩
    · rintro ⟨_, ⟨⟩, hother⟩
      exact absurd hother (hholds list)
    · rintro ⟨_, fault, ⟨⟩, hother, -⟩
      exact absurd hother (hstrays fault)
  | @lost message reason =>
    exact ⟨fun list => ⟨nofun, nofun⟩, fun crash => ⟨nofun, nofun⟩, fun _ _ => ⟨reason, rfl⟩⟩

/-! ## Two answers -/

theorem exists_ok_of_any {ε α : Type} {result : Except ε α} {check : α → Bool}
    (h : result.toOption.any check = true) : ∃ value, result = .ok value ∧ check value = true := by
  cases result with
  | error error => cases h
  | ok value => exact ⟨value, rfl, h⟩

/-- A client whose request can be answered, and a place that the request cannot be sent on to. -/
theorem exists_accepts : ∃ client request, branchClient "http://test" .standard = .ok client ∧
    Accepts client "/branches" (branchParams "polkadot" false) request ∧
    Client.redirectedTo request "http:path" = .error (.address .pathWithoutRoot) := by
  have hrequests : ((branchClient "http://test" .standard).toOption.any fun client =>
      (client.requestTo "/branches" (branchParams "polkadot" false)).toOption.any fun request =>
        (Client.checkAnswered request.url).toOption.any fun _ =>
          match Client.redirectedTo request "http:path" with
          | .error error => error = .address .pathWithoutRoot
          | .ok _ => false) = true := by
    decide +kernel
  obtain ⟨client, hclient, hrequests⟩ := exists_ok_of_any hrequests
  obtain ⟨request, hrequest, hrequests⟩ := exists_ok_of_any hrequests
  obtain ⟨_, hanswered, hplace⟩ := exists_ok_of_any hrequests
  refine ⟨client, request, hclient, ⟨hrequest, hanswered⟩, ?_⟩
  split at hplace
  · next heq => rw [heq, of_decide_eq_true hplace]
  · cases hplace

def replying (response : Response) : Transport Unit := fun _ state => (.response response, state)

/-- An answer with pairs that hold other values than texts. -/
def mixedPairs : Response where
  status := 200
  body := Text.Utf8.encodeString "\x7b\"branch\": [[\"zeta\", null], [1, \"a1\"]]\x7d"
  location := none

def listIn? : CallEnd (List Branch) → Option (List Branch)
  | .answer list => some list
  | _ => none

theorem eq_of_listIn? {result : CallEnd (List Branch)} {list : List Branch}
    (h : listIn? result = some list) : result = .answer list := by
  unfold listIn? at h
  split at h
  · exact congrArg _ (Option.some.inj h)
  · cases h

theorem branches_outcome_mixedPairs : ∃ client request,
    branchClient "http://test" .standard = .ok client ∧
      Accepts client "/branches" (branchParams "polkadot" false) request ∧
      (branches client (replying mixedPairs) "polkadot" false ()).result =
        .answer [⟨"zeta", "None"⟩, ⟨"1", "a1"⟩] := by
  obtain ⟨client, request, hclient, haccepts, -⟩ := exists_accepts
  have hread : ((Json.readOctets mixedPairs.body).toOption.any fun value =>
      listIn? (branchesOf "polkadot" value) = some [⟨"zeta", "None"⟩, ⟨"1", "a1"⟩]) = true := by
    decide +kernel
  obtain ⟨value, hvalue, hlist⟩ := exists_ok_of_any hread
  have hanswer := eq_of_listIn? (of_decide_eq_true hlist)
  obtain ⟨fields, pairs, rfl, hpairs⟩ := branchesOf_eq_answer_iff.mp hanswer
  have hholds : Holds mixedPairs _ := ⟨by decide, fields, pairs, hvalue, hpairs⟩
  have hplain : PlainHead (.response mixedPairs) := by
    rintro _ ⟨⟩
    rfl
  have hsent : replying mixedPairs request () = (.response mixedPairs, ()) := rfl
  have houtcome := branches_outcome hclient haccepts hsent hplain
  exact ⟨client, request, hclient, haccepts, (houtcome.1 _).mpr ⟨_, rfl, hholds⟩⟩

/-- An answer that redirects to a place without a host. -/
def hostless : Response := ⟨302, [], some "http:path"⟩

/-- A listing that meets an answer without a list does not always fail for its repository. -/
theorem branches_hostless :
    ¬ ∀ (base repo : String) (timeout : Seconds) (client : Client) (transport : Transport Unit)
      (looksForNews : Bool) (request : Request) (response : Response),
      branchClient base timeout = .ok client →
      Accepts client "/branches" (branchParams repo looksForNews) request →
      transport request () = (.response response, ()) → PlainHead (.response response) →
      (∀ list, ¬ Holds response list) →
      ∃ reason, (branches client transport repo looksForNews ()).result =
        .unavailable ⟨repo, reason⟩ := by
  intro hall
  obtain ⟨client, request, hclient, haccepts, hplace⟩ := exists_accepts
  have hplain : PlainHead (.response hostless) := by
    rintro _ ⟨⟩
    rfl
  have hstrays : Strays request hostless .pathWithoutRoot := ⟨"http:path", rfl, hplace⟩
  have hsent : replying hostless request () = (.response hostless, ()) := rfl
  have hcomes := branches_comes (followsRedirections_branchClient hclient) haccepts hsent hplain
  obtain ⟨reason, hreason⟩ := hall _ _ _ client (replying hostless) false request hostless hclient
    haccepts hsent hplain fun list h => h.not_strays _ hstrays
  rw [hreason] at hcomes
  cases hcomes with
  | refuses _ hnone => exact hnone _ hstrays

end Listing

end BranchCompare
