import BranchCompare.Listing.Pulls

/-!
# What a listing of change requests keeps

An item of a listing is taken, passed over, or breaks the listing off, and which of these happens
depends on the item alone (`readItems_eq`).  What breaks off is a broken outline: an item that is no
object, or has something else where a part should be, and nothing missing before it
(`ofListing_ne_iff`).  Items with the right outline never do, whatever their entries hold
(`pulls_result`).
-/

namespace BranchCompare

namespace ChangeRequest

/-! ## Outlines -/

/-- The repository of a branch is an object, and so is its owner. -/
def OwnerOutlined (branch : List (String × Json)) : Prop :=
  ∃ repo owner, part "repo" branch = .ok repo ∧ part "owner" repo = .ok owner

/-- A value is an object with objects for its parts, as far as they are looked at: nothing is after
an entry that is missing.  A part that is empty in any way counts as an object. -/
def Outlined (raw : Json) : Prop :=
  ∃ fields head base, raw = .object fields ∧ part "head" fields = .ok head ∧
    part "base" fields = .ok base ∧
    (OrderedMap.has "number" fields = true → ∃ user, part "user" fields = .ok user ∧
      (OrderedMap.has "ref" head = true → OrderedMap.has "ref" base = true →
        OwnerOutlined head ∧ OwnerOutlined base))

section Outlines

variable {α : Type} {key : String} {fields : List (String × Json)}

/-- A part goes on if it is an object. -/
theorem bind_part_ne_iff {next : List (String × Json) → Except MalformedRequest α} :
    (part key fields >>= next) ≠ .error .notAnObject ↔
      ∃ value, part key fields = .ok value ∧ next value ≠ .error .notAnObject := by
  have hfails : ∀ error, part key fields = .error error → error = .notAnObject := by
    intro error herror
    unfold part fieldsOf at herror
    dsimp only at herror
    split at herror
    · cases herror
    · split at herror
      · cases herror
      · exact (Except.error.inj herror).symm
  cases hpart : part key fields with
  | ok value =>
    refine ⟨fun h => ⟨value, rfl, h⟩, ?_⟩
    rintro ⟨_, heq, h⟩
    rwa [← Except.ok.inj heq] at h
  | error error =>
    obtain rfl := hfails error hpart
    refine ⟨fun h => absurd rfl h, ?_⟩
    rintro ⟨_, heq, -⟩
    cases heq

/-- An entry that is missing stops the reading, but breaks nothing off. -/
theorem bind_neededEntry_ne_iff {next : Json → Except MalformedRequest α} :
    (neededEntry key fields >>= next) ≠ .error .notAnObject ↔
      ∀ value, OrderedMap.get? key fields = some value → next value ≠ .error .notAnObject := by
  unfold neededEntry
  cases OrderedMap.get? key fields with
  | none => exact ⟨fun _ => nofun, fun _ => nofun⟩
  | some value =>
    refine ⟨fun h other heq => ?_, fun h => h value rfl⟩
    rwa [← Option.some.inj heq]

theorem mapError_invalid_ne (checked : Except (List Schema.Issue) ChangeRequest) :
    checked.mapError MalformedRequest.invalid ≠ .error .notAnObject := by
  cases checked with
  | ok request => exact nofun
  | error issues =>
    intro h
    cases Except.error.inj h

/-- A value breaks a listing off unless it has the right outline. -/
theorem ofListing_ne_iff (raw : Json) : ofListing raw ≠ .error .notAnObject ↔ Outlined raw := by
  cases raw with
  | object fields =>
    unfold ofListing
    rw [show fieldsOf (.object fields) = .ok fields from rfl]
    have hbind : ∀ next : List (String × Json) → Except MalformedRequest ChangeRequest,
        ((.ok fields : Except MalformedRequest _) >>= next) = next fields := fun _ => rfl
    simp only [hbind, bind_part_ne_iff, bind_neededEntry_ne_iff]
    constructor
    · rintro ⟨head, hhead, base, hbase, h⟩
      refine ⟨fields, head, base, rfl, hhead, hbase, fun hnumber => ?_⟩
      obtain ⟨number, hnumber⟩ := Option.isSome_iff_exists.mp hnumber
      obtain ⟨user, huser, h⟩ := h number hnumber
      refine ⟨user, huser, fun hheadRef hbaseRef => ?_⟩
      obtain ⟨headRef, hheadRef⟩ := Option.isSome_iff_exists.mp hheadRef
      obtain ⟨baseRef, hbaseRef⟩ := Option.isSome_iff_exists.mp hbaseRef
      obtain ⟨_, hheadRepo, _, hheadOwner, _, hbaseRepo, _, hbaseOwner, -⟩ :=
        h headRef hheadRef baseRef hbaseRef
      exact ⟨⟨_, _, hheadRepo, hheadOwner⟩, ⟨_, _, hbaseRepo, hbaseOwner⟩⟩
    · rintro ⟨_, head, base, heq, hhead, hbase, h⟩
      obtain rfl := Json.object.inj heq
      refine ⟨head, hhead, base, hbase, fun number hnumber => ?_⟩
      obtain ⟨user, huser, h⟩ := h (Option.isSome_iff_exists.mpr ⟨number, hnumber⟩)
      refine ⟨user, huser, fun headRef hheadRef baseRef hbaseRef => ?_⟩
      obtain ⟨⟨_, _, hheadRepo, hheadOwner⟩, ⟨_, _, hbaseRepo, hbaseOwner⟩⟩ :=
        h (Option.isSome_iff_exists.mpr ⟨headRef, hheadRef⟩)
          (Option.isSome_iff_exists.mpr ⟨baseRef, hbaseRef⟩)
      exact ⟨_, hheadRepo, _, hheadOwner, _, hbaseRepo, _, hbaseOwner,
        fun _ _ => mapError_invalid_ne _⟩
  | null | bool | int | float | text | array =>
    refine ⟨fun h => absurd rfl h, ?_⟩
    rintro ⟨_, _, _, heq, -⟩
    cases heq

end Outlines

end ChangeRequest

namespace Listing

open Http

/-! ## Listings -/

def accepted? (item : Json) : Option ChangeRequest := (ChangeRequest.ofListing item).toOption

/-- An item is broken in its outline. -/
def breaksOff (item : Json) : Bool :=
  match ChangeRequest.ofListing item with
  | .error .notAnObject => true
  | _ => false

/-- What breaks a listing off is a broken outline. -/
theorem breaksOff_eq_false_iff (item : Json) :
    breaksOff item = false ↔ ChangeRequest.Outlined item := by
  rw [← ChangeRequest.ofListing_ne_iff]
  unfold breaksOff
  split
  · next heq => exact ⟨nofun, fun h => absurd heq h⟩
  · next hother => exact ⟨fun _ => hother, fun _ => rfl⟩

theorem any_breaksOff_eq_false_iff (items : List Json) :
    items.any breaksOff = false ↔ ∀ item ∈ items, ChangeRequest.Outlined item := by
  simp only [List.any_eq_false, Bool.not_eq_true, breaksOff_eq_false_iff]

/-- What an item does to the listing of the items after it. -/
theorem readItems_cons (item : Json) (rest : List Json) :
    readItems (item :: rest) =
      if breaksOff item then .error (.malformedRequest .notAnObject)
      else (readItems rest).map ((accepted? item).toList ++ ·) := by
  rw [readItems]
  unfold breaksOff accepted?
  cases ChangeRequest.ofListing item with
  | ok request => rfl
  | error error =>
    cases error with
    | notAnObject => rfl
    | _ => cases readItems rest <;> rfl

/-- A listing is broken off by the first item that does so, and otherwise consists of the items that
are taken. -/
theorem readItems_eq (items : List Json) :
    readItems items =
      if items.any breaksOff then .error (.malformedRequest .notAnObject)
      else .ok (items.filterMap accepted?) := by
  induction items with
  | nil => rfl
  | cons item rest ih =>
    rw [readItems_cons, ih, List.any_cons]
    cases breaksOff item with
    | true => rfl
    | false =>
      cases rest.any breaksOff with
      | true => rfl
      | false =>
        rw [List.filterMap_cons]
        cases accepted? item <;> rfl

theorem pulls_eq {S : Type} {client : Client} {transport : Transport S} {owner repo : String}
    {limit : Int} {state : S} {response : Response} {items : List Json}
    (hsent : (client.get transport ("/repos/" ++ owner ++ "/" ++ repo ++ "/pulls")
      (pullsParams limit) state).result = .ok response)
    (hstatus : Client.isSuccess response.status = true)
    (hbody : Json.readOctets response.body = .ok (.array items)) :
    (pulls client transport owner repo limit state).result =
      requestsOf (owner ++ "/" ++ repo) (.array items) := by
  simp only [pulls, endOf, valueOf, hsent, hstatus, hbody, if_pos]
  rfl

/-- A listing consists of the change requests among the items, in their order, whatever else the
items hold that have the right outline.  An item without it breaks the listing off. -/
theorem pulls_result {S : Type} {client : Client} {transport : Transport S} {owner repo : String}
    {limit : Int} {state : S} {response : Response} {items : List Json}
    (hsent : (client.get transport ("/repos/" ++ owner ++ "/" ++ repo ++ "/pulls")
      (pullsParams limit) state).result = .ok response)
    (hstatus : Client.isSuccess response.status = true)
    (hbody : Json.readOctets response.body = .ok (.array items)) :
    let result := (pulls client transport owner repo limit state).result
    ((∀ item ∈ items, ChangeRequest.Outlined item) →
      result = .answer (items.filterMap accepted?)) ∧
    ((∃ item ∈ items, ¬ ChangeRequest.Outlined item) →
      result = .crashed (.malformedRequest .notAnObject)) := by
  intro result
  have hresult : result = if items.any breaksOff then .crashed (.malformedRequest .notAnObject)
      else .answer (items.filterMap accepted?) := by
    simp only [result, pulls_eq hsent hstatus hbody, requestsOf, readItems_eq]
    cases items.any breaksOff <;> rfl
  cases hany : items.any breaksOff with
  | false =>
    rw [hany] at hresult
    refine ⟨fun _ => hresult, ?_⟩
    rintro ⟨item, hmem, hbroken⟩
    exact absurd ((any_breaksOff_eq_false_iff items).mp hany item hmem) hbroken
  | true =>
    rw [hany] at hresult
    refine ⟨fun houtlined => ?_, fun _ => hresult⟩
    rw [(any_breaksOff_eq_false_iff items).mpr houtlined] at hany
    cases hany

/-! ## An answered listing -/

/-- A response that points nowhere is what asking comes to. -/
theorem get_result {S : Type} {client : Client} {transport : Transport S} {path : String}
    {params : List Form.Pair} {request : Request} {response : Response} {state after : S}
    (hrequest : client.requestTo path params = .ok request)
    (hurl : Client.checkAnswered request.url = .ok ())
    (hsent : transport request state = (.response response, after))
    (hlocation : response.location = none) :
    (client.get transport path params state).result = .ok response := by
  have hredirection : Client.redirection? response = none := by
    unfold Client.redirection?
    split
    · exact hlocation
    · rfl
  have htaken : Client.takeIn request response = .ok none := by
    unfold Client.takeIn
    rw [hlocation, hurl, hredirection]
    rfl
  have hexchange : client.exchange transport request state = (.inl (.ok response), after) := by
    unfold Client.exchange Client.afterResponse
    rw [hsent]
    simp only [htaken]
  unfold Client.get
  simp only [hrequest]
  unfold Client.send
  rw [hexchange]

def answering (body : String) : Transport Unit := fun _ state =>
  (.response ⟨200, Text.Utf8.encodeString body, none⟩, state)

theorem get_answering :
    ∃ client, pullsClient "http://h" none .standard = .ok client ∧ ∀ body,
      (client.get (answering body) ("/repos/" ++ "o" ++ "/" ++ "r" ++ "/pulls") (pullsParams 30)
        ()).result = .ok ⟨200, Text.Utf8.encodeString body, none⟩ := by
  have hrequests : ((pullsClient "http://h" none .standard).toOption.any fun client =>
      (client.requestTo ("/repos/" ++ "o" ++ "/" ++ "r" ++ "/pulls")
        (pullsParams 30)).toOption.any fun request =>
          (Client.checkAnswered request.url).toOption.isSome) = true := by
    decide +kernel
  cases hmake : pullsClient "http://h" none .standard with
  | error fault => rw [hmake] at hrequests; cases hrequests
  | ok client =>
    refine ⟨client, rfl, fun body => ?_⟩
    simp only [hmake, Except.toOption, Option.any_some] at hrequests
    split at hrequests
    · next request hrequest =>
      rw [Option.any_some] at hrequests
      split at hrequests
      · next hurl => exact get_result hrequest hurl rfl rfl
      · cases hrequests
    · cases hrequests

/-- A listing of a change request and another item. -/
def plainAnd (item : String) : String :=
  "[\x7b\"number\": 7, \"head\": \x7b\"ref\": \"a\"\x7d, \"base\": \x7b\"ref\": \"b\"\x7d, " ++
    "\"updated_at\": 0\x7d, " ++ item ++ "]"

/-- The items of a text that is an array. -/
def itemsOf? (text : String) : Option (List Json) :=
  match Json.readOctets (Text.Utf8.encodeString text) with
  | .ok (.array items) => some items
  | _ => none

theorem readOctets_of_itemsOf? {text : String} {items : List Json}
    (h : itemsOf? text = some items) :
    Json.readOctets (Text.Utf8.encodeString text) = .ok (.array items) := by
  unfold itemsOf? at h
  split at h
  · next hread =>
    cases h
    exact hread
  · cases h

/-- An item that holds no number is passed over. -/
theorem pulls_result_noNumber :
    ∃ client items, pullsClient "http://h" none .standard = .ok client ∧
      itemsOf? (plainAnd "\x7b\x7d") = some items ∧ items.length = 2 ∧
      (items.filterMap accepted?).length = 1 ∧
      (pulls client (answering (plainAnd "\x7b\x7d")) "o" "r" 30 ()).result =
        .answer (items.filterMap accepted?) := by
  obtain ⟨client, hmake, hget⟩ := get_answering
  have hread : ((itemsOf? (plainAnd "\x7b\x7d")).any fun items => items.length == 2 &&
      (items.filterMap accepted?).length == 1 && !items.any breaksOff) = true := by
    decide +kernel
  obtain ⟨items, hitems, hcheck⟩ := (Option.any_eq_true _ _).mp hread
  simp only [Bool.and_eq_true, beq_iff_eq, Bool.not_eq_true'] at hcheck
  have hsent := hget (plainAnd "\x7b\x7d")
  have houtlined := (any_breaksOff_eq_false_iff items).mp hcheck.2
  have hresult := (pulls_result hsent rfl (readOctets_of_itemsOf? hitems)).1 houtlined
  exact ⟨client, items, hmake, hitems, hcheck.1.1, hcheck.1.2, hresult⟩

/-- Next to an item that is null a listing does not come to the change request. -/
theorem pulls_nullItem :
    ¬ ∀ (client : Client) (transport : Transport Unit) (owner repo : String) (limit : Int)
      (response : Response) (items : List Json),
      (client.get transport ("/repos/" ++ owner ++ "/" ++ repo ++ "/pulls")
        (pullsParams limit) ()).result = .ok response →
      Client.isSuccess response.status = true →
      Json.readOctets response.body = .ok (.array items) →
      (pulls client transport owner repo limit ()).result =
        .answer (items.filterMap accepted?) := by
  intro hall
  obtain ⟨client, -, hget⟩ := get_answering
  have hread : ((itemsOf? (plainAnd "null")).any fun items => items.any breaksOff) = true := by
    decide +kernel
  obtain ⟨items, hitems, hbroken⟩ := (Option.any_eq_true _ _).mp hread
  have hbody := readOctets_of_itemsOf? hitems
  have hsent := hget (plainAnd "null")
  have hclaimed := hall client _ "o" "r" 30 _ items hsent rfl hbody
  rw [pulls_eq hsent rfl hbody] at hclaimed
  unfold requestsOf at hclaimed
  simp only [readItems_eq, hbroken, if_true] at hclaimed
  exact nomatch hclaimed

end Listing

end BranchCompare
