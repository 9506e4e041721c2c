import SealedGateway.Directory
import SealedGateway.Proofs.Key.Reading

/-!
# Resolving keys over a whole run

The caller resolves one identity after another with one store, and the directory may answer
differently every time.  A call either finds a key in the store or asks the directory once, and the
store only ever gains keys of identities that had none.  So along a run the first key of an identity
is its last, and nobody asks for it again.
-/

namespace SealedGateway

/-! ## Growing stores -/

/-- Whether a store keeps every key of another one under its identity. -/
def KeyStore.Extends {σ : Type} [KeyStore σ] (before after : σ) : Prop :=
  ∀ identity key, KeyStore.load? before identity = some key →
    KeyStore.load? after identity = some key

namespace KeyStore.Extends

variable {σ : Type} [KeyStore σ]

theorem refl (keys : σ) : KeyStore.Extends keys keys :=
  fun _ _ isKept => isKept

theorem trans {first second third : σ} (left : KeyStore.Extends first second)
    (right : KeyStore.Extends second third) : KeyStore.Extends first third :=
  fun identity key isKept => right identity key (left identity key isKept)

/-- A key under an identity that had none takes no key away. -/
theorem store [LawfulKeyStore σ] {keys : σ} {identity : String}
    (isAbsent : KeyStore.load? keys identity = none) (key : RecipientKey) :
    KeyStore.Extends keys (KeyStore.store keys identity key) := by
  intro other kept isKept
  have differs : other ≠ identity := by
    rintro rfl
    cases isAbsent.symm.trans isKept
  rw [LawfulKeyStore.load?_store_of_ne keys identity other key differs, isKept]

end KeyStore.Extends

namespace Directory

/-! ## Answers -/

/-- Whether an answer, without the blanks around it, is the digits of a key. -/
def IsKeyText (answer : String) : Prop :=
  (WideText.ofString (Text.strip answer)).IsHexOf 32

/-- Whether an answer, without the blanks around it, spells a key. -/
def Spells (answer : String) (key : RecipientKey) : Prop :=
  (WideText.ofString (Text.strip answer)).Spells key.octets.toList

theorem readAnswer_eq_ok_iff {answer : String} {key : RecipientKey} :
    readAnswer answer = .ok key ↔ Spells answer key := by
  rw [Spells, ← Value.hexOctets_eq_ok_iff, readAnswer, RecipientKey.ofText, Value.ofString]
  cases (Value.text (WideText.ofString (Text.strip answer))).hexOctets 32 with
  | error fault => simp
  | ok octets =>
    obtain ⟨expected⟩ := key
    simp

theorem readAnswer_of_not_isKeyText {answer : String} (isNoKey : ¬ IsKeyText answer) :
    readAnswer answer = .error (.badKey .publicHex) := by
  rw [readAnswer, RecipientKey.ofText, Value.ofString]
  cases read : (Value.text (WideText.ofString (Text.strip answer))).hexOctets 32 with
  | error fault => rfl
  | ok octets => exact absurd (Value.exists_hexOctets_iff.mp ⟨octets, read⟩) isNoKey

theorem exists_key_of_isKeyText {answer : String} (isKey : IsKeyText answer) :
    ∃ key, Spells answer key := by
  obtain ⟨octets, isSpelled⟩ := WideText.exists_spells_iff.mpr isKey
  exact ⟨⟨octets⟩, isSpelled⟩

/-! ## One call -/

/-- What a call asks for, and what the directory answers at that time. -/
structure Request where
  identity : String
  directory : String → Except Failure String

/-- A call with the store that it finds. -/
structure Call (σ : Type) where
  before : σ
  request : Request
  resolution : Resolution σ

namespace Call

variable {σ : Type} [KeyStore σ]

/-- The key that the store has for the identity of a call. -/
def stored? (call : Call σ) : Option RecipientKey :=
  KeyStore.load? call.before call.request.identity

/-- What the directory answers for the identity of a call. -/
def answer (call : Call σ) : Except Failure String :=
  call.request.directory call.request.identity

/-- A call answers from the store without asking the directory, or it asks once, and then either the
key in the answer enters the store under the identity or nothing does. -/
structure IsSound (call : Call σ) : Prop where
  ofStored : ∀ key, call.stored? = some key → call.resolution = ⟨.ok key, call.before, []⟩
  fetched : call.stored? = none → call.resolution.fetched = [call.request.identity]
  ofKey : call.stored? = none → ∀ answer, call.answer = .ok answer → IsKeyText answer →
    ∃ key, Spells answer key ∧ call.resolution.outcome = .ok key ∧
      KeyStore.load? call.resolution.keys call.request.identity = some key ∧
      ∀ other, other ≠ call.request.identity →
        KeyStore.load? call.resolution.keys other = KeyStore.load? call.before other
  ofOther : call.stored? = none → ∀ answer, call.answer = .ok answer → ¬ IsKeyText answer →
    call.resolution.outcome = .error (.badKey .publicHex) ∧ call.resolution.keys = call.before
  ofFailure : call.stored? = none → ∀ failure, call.answer = .error failure →
    call.resolution.outcome = .error failure ∧ call.resolution.keys = call.before
  extends_before : KeyStore.Extends call.before call.resolution.keys

end Call

section Steps

variable {σ : Type} [KeyStore σ] {keys : σ} {request : Request}

theorem resolve_of_stored {key : RecipientKey}
    (isStored : KeyStore.load? keys request.identity = some key) :
    resolve request.directory keys request.identity = ⟨.ok key, keys, []⟩ := by
  rw [resolve, isStored]

theorem resolve_of_key {answer : String} {key : RecipientKey}
    (isAbsent : KeyStore.load? keys request.identity = none)
    (isAnswer : request.directory request.identity = .ok answer) (isSpelled : Spells answer key) :
    resolve request.directory keys request.identity =
      ⟨.ok key, KeyStore.store keys request.identity key, [request.identity]⟩ := by
  rw [resolve, isAbsent, isAnswer]
  simp only [Except.bind, readAnswer_eq_ok_iff.mpr isSpelled]

theorem resolve_of_refusal {failure : Failure}
    (isAbsent : KeyStore.load? keys request.identity = none)
    (isRefused : (request.directory request.identity).bind readAnswer = .error failure) :
    resolve request.directory keys request.identity =
      ⟨.error failure, keys, [request.identity]⟩ := by
  rw [resolve, isAbsent]
  simp only [isRefused]

theorem fetched_resolve (isAbsent : KeyStore.load? keys request.identity = none) :
    (resolve request.directory keys request.identity).fetched = [request.identity] := by
  rw [resolve, isAbsent]
  cases (request.directory request.identity).bind readAnswer <;> rfl

theorem extends_resolve [LawfulKeyStore σ] :
    KeyStore.Extends keys (resolve request.directory keys request.identity).keys := by
  cases stored : KeyStore.load? keys request.identity with
  | some key =>
    rw [resolve_of_stored stored]
    exact KeyStore.Extends.refl keys
  | none =>
    rw [resolve, stored]
    cases (request.directory request.identity).bind readAnswer with
    | ok key => exact KeyStore.Extends.store stored key
    | error failure => exact KeyStore.Extends.refl keys

/-- Resolving an identity is sound, whatever the store holds and the directory answers. -/
theorem isSound_resolve [LawfulKeyStore σ] :
    Call.IsSound ⟨keys, request, resolve request.directory keys request.identity⟩ where
  ofStored _ isStored := resolve_of_stored isStored
  fetched isAbsent := fetched_resolve isAbsent
  ofKey isAbsent answer isAnswer isKey := by
    obtain ⟨key, isSpelled⟩ := exists_key_of_isKeyText isKey
    refine ⟨key, isSpelled, ?_⟩
    rw [resolve_of_key isAbsent isAnswer isSpelled]
    exact ⟨rfl, LawfulKeyStore.load?_store_self keys request.identity key,
      fun other => LawfulKeyStore.load?_store_of_ne keys request.identity other key⟩
  ofOther isAbsent answer isAnswer isNoKey := by
    have isRefused : (request.directory request.identity).bind readAnswer =
        .error (.badKey .publicHex) := by
      rw [show request.directory request.identity = .ok answer from isAnswer, Except.bind]
      exact readAnswer_of_not_isKeyText isNoKey
    rw [resolve_of_refusal isAbsent isRefused]
    exact ⟨rfl, rfl⟩
  ofFailure isAbsent failure isFailure := by
    have isRefused : (request.directory request.identity).bind readAnswer = .error failure := by
      rw [show request.directory request.identity = .error failure from isFailure, Except.bind]
    rw [resolve_of_refusal isAbsent isRefused]
    exact ⟨rfl, rfl⟩
  extends_before := extends_resolve

/-- After a success the store has the key. -/
theorem load?_of_outcome [LawfulKeyStore σ] {key : RecipientKey}
    (isFound : (resolve request.directory keys request.identity).outcome = .ok key) :
    KeyStore.load? (resolve request.directory keys request.identity).keys request.identity =
      some key := by
  cases stored : KeyStore.load? keys request.identity with
  | some kept =>
    rw [resolve_of_stored stored] at isFound ⊢
    rw [stored, Except.ok.inj isFound]
  | none =>
    rw [resolve, stored] at isFound ⊢
    cases read : (request.directory request.identity).bind readAnswer with
    | ok found =>
      rw [read] at isFound
      rw [← Except.ok.inj isFound]
      exact LawfulKeyStore.load?_store_self keys request.identity found
    | error failure =>
      rw [read] at isFound
      cases isFound

end Steps

/-! ## Whole runs -/

section Runs

variable {σ : Type} [KeyStore σ]

/-- The calls of a run, each with the store that the one before it leaves. -/
def calls (keys : σ) : List Request → List (Call σ)
  | [] => []
  | request :: rest =>
    let resolution := resolve request.directory keys request.identity
    ⟨keys, request, resolution⟩ :: calls resolution.keys rest

/-- What an earlier call of a run leaves to a later one: all its keys, and after a success the same
key for the same identity and no question about it. -/
structure Call.IsFollowedBy (earlier later : Call σ) : Prop where
  extended : KeyStore.Extends earlier.resolution.keys later.before
  outcome : ∀ key, earlier.resolution.outcome = .ok key →
    later.request.identity = earlier.request.identity → later.resolution.outcome = .ok key
  fetched : ∀ key, earlier.resolution.outcome = .ok key →
    earlier.request.identity ∉ later.resolution.fetched

/-- A call that finds the key of an earlier success finds it for good. -/
theorem Call.IsSound.outcome_of_kept {call : Call σ} (isSound : call.IsSound) {identity : String}
    {key : RecipientKey} (isKept : KeyStore.load? call.before identity = some key) :
    (call.request.identity = identity → call.resolution.outcome = .ok key) ∧
      identity ∉ call.resolution.fetched := by
  by_cases isSame : call.request.identity = identity
  · subst isSame
    rw [isSound.ofStored key isKept]
    exact ⟨fun _ => rfl, List.not_mem_nil⟩
  · refine ⟨fun same => absurd same isSame, ?_⟩
    cases stored : call.stored? with
    | some other =>
      rw [isSound.ofStored other stored]
      exact List.not_mem_nil
    | none =>
      rw [isSound.fetched stored, List.mem_singleton]
      exact fun same => isSame same.symm

variable [LawfulKeyStore σ]

/-- Every call of a run is sound and finds a store with all the keys from before the run. -/
theorem isSound_of_mem_calls {requests : List Request} :
    ∀ {keys : σ}, ∀ call ∈ calls keys requests,
      call.IsSound ∧ KeyStore.Extends keys call.before := by
  induction requests with
  | nil => nofun
  | cons request rest ih =>
    intro keys call isMember
    rcases List.mem_cons.mp isMember with rfl | isLater
    · exact ⟨isSound_resolve, KeyStore.Extends.refl keys⟩
    · obtain ⟨isSound, isExtended⟩ := ih call isLater
      exact ⟨isSound, extends_resolve.trans isExtended⟩

/-- In every run with any store, whatever it holds at first and whatever the directory answers each
time, every call is sound and loses no key, and after the first success for an identity every later
call for it gives the same key, without another question about it. -/
theorem calls_keep_keys (keys : σ) (requests : List Request) :
    (∀ call ∈ calls keys requests, call.IsSound ∧ KeyStore.Extends keys call.before) ∧
      (calls keys requests).Pairwise Call.IsFollowedBy := by
  refine ⟨isSound_of_mem_calls, ?_⟩
  induction requests generalizing keys with
  | nil => exact List.Pairwise.nil
  | cons request rest ih =>
    refine List.Pairwise.cons ?_ (ih _)
    intro later isLater
    obtain ⟨isSound, isExtended⟩ := isSound_of_mem_calls later isLater
    -- Stores only grow, so the later call still finds the key that the earlier one has left.
    have outcome_of_success (key : RecipientKey)
        (isFound : (resolve request.directory keys request.identity).outcome = .ok key) :=
      isSound.outcome_of_kept (isExtended request.identity key (load?_of_outcome isFound))
    exact ⟨isExtended, fun key isFound => (outcome_of_success key isFound).1,
      fun key isFound => (outcome_of_success key isFound).2⟩

end Runs

/-- Two identities with interleaved answers: one is no key at first, and changes after it was. -/
def restlessRequests : List Request :=
  [⟨"CAROL", fun _ => .ok "none"⟩,
    ⟨"CAROL", fun _ => .ok (String.ofList (List.replicate 64 'A') ++ "\n")⟩,
    ⟨"DAVID", fun _ => .ok (String.ofList (List.replicate 64 '1'))⟩,
    ⟨"CAROL", fun _ => .ok (String.ofList (List.replicate 64 '2'))⟩]

theorem calls_keep_keys_of_restlessRequests :
    (calls KeyCache.empty restlessRequests).map (fun call => call.resolution.fetched) =
        [["CAROL"], ["CAROL"], ["DAVID"], []] ∧
      (∀ call ∈ calls KeyCache.empty restlessRequests,
        call.IsSound ∧ KeyStore.Extends KeyCache.empty call.before) ∧
      (calls KeyCache.empty restlessRequests).Pairwise Call.IsFollowedBy :=
  ⟨by decide +kernel, calls_keep_keys KeyCache.empty restlessRequests⟩

end Directory
end SealedGateway
