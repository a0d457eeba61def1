import LowPing.Backend.Directory
import LowPing.Library.Machine
import LowPing.Protocol.Keys

/-!
# The backend over runs

Signups and directory requests in any order. A handler that panics ends the process: it is built
with `panic = "abort"`. Until then the `n`-th signup gets user id `n` and a token that verifies
under the published key until it expires, and each directory is read back under that key as the
list of the bridges enabled.
-/

namespace LowPing.Backend

open Library.Machine (run run_concat)

/-- `InfoResponse`. -/
structure InfoResponse where
  /-- Always `lowping-backend`. -/
  service : String
  /-- Clients and bridges verify directories and tokens with it. -/
  backendPubkeyHex : String
  /-- What the backend issues tokens for. -/
  supportedScopes : List String
  deriving DecidableEq

/-- `info`. -/
def AppState.info {crypto : Crypto} (codec : KeyCodec) (state : AppState crypto) :
    InfoResponse where
  service := "lowping-backend"
  backendPubkeyHex := codec.hexEncode state.verifyingKey.toList
  supportedScopes := ["any-bridge"]

/-- One request is answered; the outer `none` is a panic, which ends the process. -/
def BackendState.step {crypto : Crypto} (text : TextCodec) (format : DirectoryFormat)
    (state : BackendState crypto) : Request format.DateTime → Option (BackendState crypto)
  | .signup now =>
    (state.app.signup text now).map fun (response, app) =>
      { state with app, responses := state.responses ++ [.signup response] }
  | .bridges now =>
    (state.directories.directory format now).map fun directory =>
      let response := match SignedDirectory.sign crypto text format directory
          state.app.signingKey with
        | .error error => .internal error
        | .ok signed => .bridges signed
      { state with responses := state.responses ++ [response] }

/-- A request for a token. -/
def Request.isSignup {DateTime : Type} : Request DateTime → Bool
  | .signup _ => true
  | .bridges _ => false

/-- How many requests are signups. -/
def signups {DateTime : Type} (requests : List (Request DateTime)) : Nat :=
  requests.countP Request.isSignup

/-- The user id an answer hands out. -/
def Response.userId : Response → Option UInt32
  | .signup response => some response.userId
  | .bridges _ => none
  | .internal _ => none

/-- `serde_json` reads back what it writes. -/
def DirectoryFormat.RoundTrips (format : DirectoryFormat) : Prop :=
  ∀ directory payload, format.toVec directory = .ok payload →
    format.fromSlice payload = .ok directory

/-- What a request is answered with after some signups before it. -/
def Answers {crypto : Crypto} (text : TextCodec) (format : DirectoryFormat) (app : AppState crypto)
    (directories : DirectoryConfig) (earlier : Nat) :
    Request format.DateTime → Response → Prop
  | .signup now, .signup response =>
    response.userId.toNat = earlier + 1 ∧
      response.expiresAtUnix = now + app.config.tokenTtlSecs.toInt64 ∧
      ∃ token, LicenseToken.fromStringB64 text response.licenseToken = .ok token ∧
        token = LicenseToken.sign crypto (app.config.licensePayload response.userId now)
          app.signingKey ∧
        ∀ time, token.verify crypto app.verifyingKey time = .ok () ↔
          now ≤ time ∧ time < response.expiresAtUnix
  | .bridges now, .bridges signed =>
    ∃ expiresAt, format.plusSeconds now directories.directoryTtlSecs.toInt64 = some expiresAt ∧
      signed.verify crypto text format app.verifyingKey =
        .ok ⟨1, now, expiresAt, directories.bridges.filter BridgeEntry.enabled⟩
  | .bridges now, .internal message =>
    ∃ directory, directories.directory format now = some directory ∧
      format.toVec directory = .error message
  | .signup _, .bridges _ => False
  | .signup _, .internal _ => False
  | .bridges _, .signup _ => False

/-- What a backend has answered to the requests so far. -/
structure BackendState.Serves {crypto : Crypto} (text : TextCodec) (format : DirectoryFormat)
    (app : AppState crypto) (directories : DirectoryConfig)
    (requests : List (Request format.DateTime)) (state : BackendState crypto) : Prop where
  /-- Only the counter has moved. -/
  rest : state.app = { app with nextUserId := state.app.nextUserId }
  /-- By one for each signup. -/
  counter : state.app.nextUserId.toNat = signups requests + 1
  /-- The bridges known stay the same. -/
  known : state.directories = directories
  /-- Each request is answered in its turn. -/
  answered : state.responses.length = requests.length ∧
    ∀ i request response, requests[i]? = some request → state.responses[i]? = some response →
      Answers text format app directories (signups (requests.take i)) request response
  /-- The users are numbered in the order in which they came. -/
  numbered : state.responses.filterMap Response.userId =
    (List.range' 1 (signups requests)).map UInt32.ofNat

section

variable {crypto : Crypto} {text : TextCodec} {format : DirectoryFormat}

/-- A directory that can be written is read back under the key it was signed with. -/
theorem SignedDirectory.verify_sign (laws : CryptoLaws crypto) (texts : TextLaws text)
    (round : format.RoundTrips) {directory : BridgeDirectory format.DateTime} {key : SigningKey}
    {signed : SignedDirectory}
    (written : SignedDirectory.sign crypto text format directory key = .ok signed) :
    signed.verify crypto text format (crypto.verifyingKey key) = .ok directory := by
  unfold SignedDirectory.sign at written
  split at written
  · contradiction
  · rename_i payload produced
    obtain rfl := Except.ok.inj written
    have own : crypto.verify (crypto.verifyingKey key) payload
        ⟨(crypto.sign key payload).toList, (crypto.sign key payload).toList_length⟩ = true :=
      laws.verify_sign key payload
    have read := round directory payload produced
    simp only [SignedDirectory.verify, texts.base64, (crypto.sign key payload).toList_length,
      ↓reduceDIte, own, Bool.true_eq_false, ↓reduceIte, read]

/-- A token verifies from its issue until it expires. -/
theorem LicenseToken.verify_sign_iff (laws : CryptoLaws crypto) (key : SigningKey)
    (payload : LicensePayload) (time : Int64) :
    (LicenseToken.sign crypto payload key).verify crypto (crypto.verifyingKey key) time = .ok () ↔
      payload.issuedAt ≤ time ∧ time < payload.expiresAt := by
  constructor
  · intro verified
    exact (verify_ok verified).2
  · rintro ⟨begun, unexpired⟩
    exact LicenseToken.verify_sign laws key begun unexpired

/-- What a signup answers and how it leaves the counter; it panics on the last number. -/
theorem AppState.signup_cases (text : TextCodec) (state : AppState crypto) (now : Int64) :
    (state.nextUserId.toNat + 1 < 2 ^ 32 ∧
      state.signup text now = some (⟨state.nextUserId,
        (LicenseToken.sign crypto (state.config.licensePayload state.nextUserId now)
          state.signingKey).toStringB64 text,
        now + state.config.tokenTtlSecs.toInt64⟩,
        { state with nextUserId := state.nextUserId + 1 })) ∨
    (¬ state.nextUserId.toNat + 1 < 2 ^ 32 ∧ state.signup text now = none) := by
  by_cases room : state.nextUserId.toNat + 1 < 2 ^ 32
  · refine .inl ⟨room, ?_⟩
    rw [signup, issueUserId, if_pos room]
    rfl
  · refine .inr ⟨room, ?_⟩
    rw [signup, issueUserId, if_neg room]

/-- As long as the process lives, `serve` does the same; it goes on after a panic as if the request
had not come. -/
theorem BackendState.serve_eq (state : BackendState crypto) (request : Request format.DateTime) :
    state.serve text format request = (state.step text format request).getD state := by
  cases request with
  | signup now =>
    simp only [serve, step]
    cases state.app.signup text now <;> rfl
  | bridges now =>
    simp only [serve, step]
    cases state.directories.directory format now <;> rfl

/-- What holds of every backend after some requests holds of one whose process lives. -/
theorem BackendState.run_of_steps {start final : BackendState crypto}
    {requests : List (Request format.DateTime)}
    (reached : Library.Machine.run (BackendState.step text format) start requests = some final) :
    start.run text format requests = final := by
  induction requests generalizing start with
  | nil => exact Option.some.inj reached
  | cons request requests ih =>
    obtain ⟨next, taken, rest⟩ := Option.bind_eq_some_iff.mp reached
    have served : start.serve text format request = next := by
      rw [serve_eq, taken, Option.getD_some]
    exact (congrArg (fun state => BackendState.run text format state requests) served).trans
      (ih rest)

/-- Which request ends the process. -/
def BackendState.Panics (format : DirectoryFormat) (state : BackendState crypto) :
    Request format.DateTime → Prop
  | .signup _ => ¬ state.app.nextUserId.toNat + 1 < 2 ^ 32
  | .bridges now =>
    format.plusSeconds now state.directories.directoryTtlSecs.toInt64 = none

/-- A request is answered unless it ends the process. -/
theorem BackendState.step_isSome {state : BackendState crypto} (request : Request format.DateTime) :
    (state.step text format request).isSome ↔ ¬ state.Panics format request := by
  cases request with
  | signup now =>
    rcases state.app.signup_cases text now with ⟨room, answered⟩ | ⟨full, panicked⟩
    · simp only [step, answered, Option.map_some, Option.isSome_some, Panics, room, not_true,
        not_false_eq_true]
    · simp only [step, panicked, Option.map_none, Option.isSome_none, Panics, full,
        not_false_eq_true, not_true, Bool.false_eq_true]
  | bridges now =>
    simp only [step, DirectoryConfig.directory, Option.isSome_map, Panics]
    cases format.plusSeconds now state.directories.directoryTtlSecs.toInt64 with
    | none => simp
    | some expiresAt => simp

/-- One more request counts if it is a signup. -/
theorem signups_concat {DateTime : Type} (requests : List (Request DateTime))
    (request : Request DateTime) :
    signups (requests ++ [request]) =
      signups requests + if request.isSignup then 1 else 0 := by
  rw [signups, List.countP_append, List.countP_singleton]
  rfl

variable {app : AppState crypto} {directories : DirectoryConfig}
  {requests : List (Request format.DateTime)} {request : Request format.DateTime}
  {state next : BackendState crypto} {response : Response}

/-- Answers stay right when one more is given. -/
theorem answered_concat
    (answered : state.responses.length = requests.length ∧
      ∀ i request response, requests[i]? = some request → state.responses[i]? = some response →
        Answers text format app directories (signups (requests.take i)) request response)
    (right : Answers text format app directories (signups requests) request response) :
    (state.responses ++ [response]).length = (requests ++ [request]).length ∧
      ∀ i other answer, (requests ++ [request])[i]? = some other →
        (state.responses ++ [response])[i]? = some answer →
        Answers text format app directories (signups ((requests ++ [request]).take i)) other
          answer := by
  obtain ⟨even, each⟩ := answered
  refine ⟨by rw [List.length_append, List.length_append, even]; rfl, ?_⟩
  intro i other answer asked given
  by_cases old : i < requests.length
  · rw [List.getElem?_append_left old] at asked
    rw [List.getElem?_append_left (even ▸ old)] at given
    rw [List.take_append_of_le_length (Nat.le_of_lt old)]
    exact each i other answer asked given
  · have last : i = requests.length := by
      have bound := (List.getElem?_eq_some_iff.mp asked).1
      rw [List.length_append, List.length_singleton] at bound
      omega
    subst last
    rw [List.getElem?_concat_length] at asked
    rw [← even, List.getElem?_concat_length] at given
    obtain rfl := Option.some.inj asked
    obtain rfl := Option.some.inj given
    rw [List.take_left']
    · exact right
    · rfl

/-- One request is served. -/
theorem BackendState.Serves.step (laws : CryptoLaws crypto) (texts : TextLaws text)
    (round : format.RoundTrips) (serves : state.Serves text format app directories requests)
    (taken : state.step text format request = some next) :
    next.Serves text format app directories (requests ++ [request]) := by
  have key : state.app.signingKey = app.signingKey := by rw [serves.rest]
  have config : state.app.config = app.config := by rw [serves.rest]
  cases request with
  | signup now =>
    rcases state.app.signup_cases text now with ⟨room, answered⟩ | ⟨_, panicked⟩
    · rw [BackendState.step, answered] at taken
      obtain rfl := Option.some.inj taken
      have counted : signups (requests ++ [.signup now]) = signups requests + 1 :=
        signups_concat requests _
      have advanced : (state.app.nextUserId + 1).toNat = state.app.nextUserId.toNat + 1 := by
        rw [UInt32.toNat_add]
        exact Nat.mod_eq_of_lt room
      refine ⟨?_, ?_, serves.known, answered_concat serves.answered ?_, ?_⟩
      · change { state.app with nextUserId := state.app.nextUserId + 1 } = _
        rw [serves.rest]
      · change (state.app.nextUserId + 1).toNat = _
        rw [advanced, counted, serves.counter]
      · refine ⟨serves.counter, by rw [config], _,
          LicenseToken.fromStringB64_toStringB64 texts _, by rw [config, key], fun time => ?_⟩
        rw [key, app.paired]
        exact LicenseToken.verify_sign_iff laws app.signingKey _ time
      · have own : UInt32.ofNat (1 + signups requests) = state.app.nextUserId := by
          rw [Nat.add_comm, ← serves.counter, UInt32.ofNat_toNat]
        rw [counted, List.range'_1_concat, List.map_append, ← serves.numbered,
          List.filterMap_append]
        simp [Response.userId, own]
    · rw [BackendState.step, panicked] at taken
      contradiction
  | bridges now =>
    have counted : signups (requests ++ [.bridges now]) = signups requests :=
      signups_concat requests _
    obtain ⟨directory, made, rfl⟩ := Option.map_eq_some_iff.mp taken
    rw [serves.known] at made
    rw [key]
    dsimp only
    have kept (response : Response) (anonymous : response.userId = none)
        (right : Answers text format app directories (signups requests) (.bridges now) response) :
        ({ state with responses := state.responses ++ [response] } :
          BackendState crypto).Serves text format app directories (requests ++ [.bridges now]) := by
      refine ⟨serves.rest, by rw [counted]; exact serves.counter, serves.known,
        answered_concat serves.answered right, ?_⟩
      rw [counted, List.filterMap_append, serves.numbered, List.filterMap_cons, anonymous]
      exact List.append_nil _
    cases written : SignedDirectory.sign crypto text format directory app.signingKey with
    | error error =>
      refine kept (.internal error) rfl ⟨directory, made, ?_⟩
      unfold SignedDirectory.sign at written
      split at written
      · rename_i failed
        rw [← Except.error.inj written]
        exact failed
      · contradiction
    | ok signed =>
      obtain ⟨expiresAt, stamped, rfl⟩ := Option.map_eq_some_iff.mp made
      refine kept (.bridges signed) rfl ⟨expiresAt, stamped, ?_⟩
      rw [app.paired]
      exact SignedDirectory.verify_sign laws texts round written

/-- Every request of a run without a panic is served. -/
theorem serves_run (laws : CryptoLaws crypto) (texts : TextLaws text)
    (round : format.RoundTrips) (fresh : app.nextUserId = 1) {final : BackendState crypto}
    (reached : run (BackendState.step text format) (BackendState.start app directories) requests =
      some final) : final.Serves text format app directories requests := by
  induction requests using List.reverseRecOn generalizing final with
  | nil =>
    obtain rfl := Option.some.inj reached
    exact ⟨rfl, by change app.nextUserId.toNat = _; rw [fresh]; rfl, rfl, ⟨rfl, nofun⟩, rfl⟩
  | append_singleton requests request ih =>
    rw [run_concat] at reached
    obtain ⟨state, before, taken⟩ := Option.bind_eq_some_iff.mp reached
    exact (ih before).step laws texts round taken

/-- A run goes on without a panic while the numbers last and the expiries of directories are in
range. -/
theorem answered_iff (laws : CryptoLaws crypto) (texts : TextLaws text) (round : format.RoundTrips)
    (fresh : app.nextUserId = 1) (requests : List (Request format.DateTime)) :
    (run (BackendState.step text format) (BackendState.start app directories) requests).isSome ↔
      signups requests + 1 < 2 ^ 32 ∧ ∀ now, .bridges now ∈ requests →
        (format.plusSeconds now directories.directoryTtlSecs.toInt64).isSome := by
  induction requests using List.reverseRecOn with
  | nil =>
    have few : signups ([] : List (Request format.DateTime)) + 1 < 2 ^ 32 := by
      change 0 + 1 < 2 ^ 32
      decide
    exact ⟨fun _ => ⟨few, nofun⟩, fun _ => rfl⟩
  | append_singleton requests request ih =>
    rw [run_concat]
    cases before : run (BackendState.step text format) (BackendState.start app directories)
        requests with
    | none =>
      rw [before] at ih
      constructor
      · intro answered
        contradiction
      · rintro ⟨few, dated⟩
        rw [signups_concat] at few
        have early : signups requests + 1 < 2 ^ 32 := by omega
        have more := ih.mpr ⟨early, fun now member => dated now (List.mem_append_left _ member)⟩
        contradiction
    | some state =>
      rw [before] at ih
      obtain ⟨few, dated⟩ := ih.mp rfl
      have serves := serves_run laws texts round fresh before
      rw [Option.bind_some, BackendState.step_isSome, signups_concat]
      cases request with
      | signup now =>
        change ¬ ¬ state.app.nextUserId.toNat + 1 < 2 ^ 32 ↔ signups requests + 1 + 1 < 2 ^ 32 ∧ _
        rw [not_not, serves.counter]
        refine ⟨fun room => ⟨room, fun now member => dated now ?_⟩, fun both => both.1⟩
        simpa using member
      | bridges now =>
        change ¬ format.plusSeconds now state.directories.directoryTtlSecs.toInt64 = none ↔
          signups requests + 1 < 2 ^ 32 ∧ _
        rw [serves.known, ← ne_eq, Option.ne_none_iff_isSome]
        constructor
        · refine fun inRange => ⟨few, fun other member => ?_⟩
          rcases List.mem_append.mp member with old | last
          · exact dated other old
          · obtain rfl := Request.bridges.inj (List.mem_singleton.mp last)
            exact inRange
        · intro both
          exact both.2 now (List.mem_append_right _ List.mem_cons_self)

/-- A backend starts with the key of its configuration and the first number. -/
theorem AppState.new_ok {config : BackendConfig}
    (started : AppState.new crypto text config = .ok app) : app.config = config ∧
      text.hexDecode config.backendSeckeyHex = some app.signingKey.toList ∧
      app.nextUserId = 1 := by
  unfold AppState.new at started
  split at started
  · contradiction
  · rename_i keyBytes decoded
    split at started
    · obtain rfl := Except.ok.inj started
      exact ⟨rfl, decoded, rfl⟩
    · contradiction

end

/-- A backend that has started answers until its numbers run out or the expiry of a directory is
out of range, and every answer until then serves its purpose. -/
theorem backend_serves {crypto : Crypto} {text : TextCodec} {format : DirectoryFormat}
    (laws : CryptoLaws crypto) (texts : TextLaws text) (round : format.RoundTrips)
    {config : BackendConfig} {app : AppState crypto}
    (started : AppState.new crypto text config = .ok app) (directories : DirectoryConfig)
    (requests : List (Request format.DateTime)) :
    ((run (BackendState.step text format) (BackendState.start app directories) requests).isSome ↔
      signups requests + 1 < 2 ^ 32 ∧ ∀ now, .bridges now ∈ requests →
        (format.plusSeconds now directories.directoryTtlSecs.toInt64).isSome) ∧
    ∀ final, run (BackendState.step text format) (BackendState.start app directories) requests =
      some final → final.Serves text format app directories requests := by
  have fresh := (AppState.new_ok started).2.2
  exact ⟨answered_iff laws texts round fresh requests,
    fun final reached => serves_run laws texts round fresh reached⟩

/-! ## A sample run -/

/-- A bridge that accepts clients, or does not. -/
def dallas (enabled : Bool) : BridgeEntry where
  id := if enabled then "dal-1" else "dal-2"
  name := "Dallas"
  region := "NA"
  zone := "NAC"
  endpoint := ⟨.v4 (Ipv4Addr.new 203 0 113 1), 51820⟩
  pubkeyHex := "abcd"
  gameZones := ["fortnite-NAC"]
  enabled

/-- The directory of noon on that day, with the first bridge. -/
def noonDirectory : BridgeDirectory Nat where
  version := 1
  issuedAt := 43200
  expiresAt := 45000
  bridges := [dallas true]

/-- The text of the directory of noon. -/
def noonText : Bytes :=
  asciiText "\x7b\"version\":1,\"issued_at\":\"" ++ dayTimestamp 43200 ++
    asciiText "\",\"expires_at\":\"" ++ dayTimestamp 45000 ++
    asciiText "\",\"bridges\":[\x7b\"id\":\"dal-1\",\"name\":\"Dallas\",\"region\":\"NA\"," ++
    asciiText "\"zone\":\"NAC\",\"endpoint\":\"203.0.113.1:51820\",\"pubkey_hex\":\"abcd\"," ++
    asciiText "\"game_zones\":[\"fortnite-NAC\"],\"enabled\":true\x7d]\x7d"

/-- The libraries, as far as that directory goes. -/
def noonFormat : DirectoryFormat where
  DateTime := Nat
  plusSeconds time seconds :=
    let sum := time + seconds.toInt
    if 0 ≤ sum ∧ sum < 86400 then some sum.toNat else none
  toVec directory := if directory = noonDirectory then .ok noonText else .error "other directory"
  fromSlice payload := if payload = noonText then .ok noonDirectory else .error "expected value"

/-- What they write they read back. -/
theorem noonFormat_roundTrips : noonFormat.RoundTrips := by
  intro directory payload produced
  simp only [noonFormat] at produced ⊢
  split at produced
  · rename_i same
    obtain rfl := Except.ok.inj produced
    rw [if_pos rfl, same]
  · contradiction

/-- A client signs up, another reads the directory, a third signs up later. -/
def sampleRequests : List (Request noonFormat.DateTime) :=
  [.signup 1000, .bridges (43200 : Nat), .signup 2000]

/-- The sample backend starts from its configuration. -/
theorem sampleBackend_started :
    AppState.new checksumCrypto standardText (sampleBackend defaultTokenTtl).config =
      .ok (sampleBackend defaultTokenTtl) := by
  rfl

/-- Each is served. -/
theorem sampleRequests_served : ∃ final,
    run (BackendState.step standardText noonFormat)
      (BackendState.start (sampleBackend defaultTokenTtl) ⟨[dallas false, dallas true], 1800⟩)
      sampleRequests = some final ∧
    final.Serves standardText noonFormat (sampleBackend defaultTokenTtl)
      ⟨[dallas false, dallas true], 1800⟩ sampleRequests := by
  obtain ⟨answered, serves⟩ := backend_serves checksumCrypto_laws standardText_laws
    noonFormat_roundTrips sampleBackend_started ⟨[dallas false, dallas true], 1800⟩ sampleRequests
  have goes : (run (BackendState.step standardText noonFormat)
      (BackendState.start (sampleBackend defaultTokenTtl) ⟨[dallas false, dallas true], 1800⟩)
      sampleRequests).isSome := by
    refine answered.mpr ⟨by decide, fun now asked => ?_⟩
    rcases List.mem_cons.mp asked with other | rest
    · contradiction
    · rcases List.mem_cons.mp rest with noon | last
      · obtain rfl := Request.bridges.inj noon
        decide
      · have other := List.mem_singleton.mp last
        contradiction
  obtain ⟨final, reached⟩ := Option.isSome_iff_exists.mp goes
  exact ⟨final, reached, serves final reached⟩

end LowPing.Backend
