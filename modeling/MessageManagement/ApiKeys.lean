/-
This file proves that the API-key gate admits exactly the configured keys: the
pattern that validates `API_KEYS`, the function that splits it and the hex decoder
of the guard agree on every list of entries.

A text the pattern accepts is written from entries in one way only; splitting
finds these entries, and each of their hashes is decoded to its end. SHA-256 is
any function from bytes to 32 bytes.
-/

import MessageManagement.Library.Hex
import MessageManagement.Library.Pattern

namespace MessageManagement

/-! ### The configuration -/

structure ApiKeyConfig where
  name : JsString
  hash : JsString
deriving DecidableEq

/-- The code units from one to another, both included. -/
def unitRange (first last : Nat) : List UInt16 :=
  (List.range' first (last + 1 - first)).map Nat.toUInt16

/-- `[A-Za-z0-9_.-]`. -/
def NAME_UNITS : List UInt16 :=
  unitRange 0x41 0x5A ++ unitRange 0x61 0x7A ++ unitRange 0x30 0x39 ++ [0x5F, 0x2E, 0x2D]

/-- `[a-fA-F0-9]`. -/
def HASH_UNITS : List UInt16 := unitRange 0x61 0x66 ++ unitRange 0x41 0x46 ++ unitRange 0x30 0x39

def COMMA : UInt16 := 0x2C

def COLON : UInt16 := 0x3A

/-- `[A-Za-z0-9_.-]+:[a-fA-F0-9]{64}`, which the pattern repeats. -/
def entryPattern : RegularExpression UInt16 :=
  Pattern.oneOrMore (Pattern.oneOf NAME_UNITS) *
    (.char COLON * Pattern.oneOf HASH_UNITS ^ 64)

def API_KEYS_PATTERN : RegularExpression UInt16 := Pattern.separated COMMA entryPattern

/-- `Joi.string().pattern(API_KEYS_PATTERN).required()`: whether the API starts with this value
of `API_KEYS`. -/
def validatesApiKeys (value : Option JsString) : Bool := value.any API_KEYS_PATTERN.rmatch

def parseApiKeys (value : Option JsString) : List ApiKeyConfig :=
  match value with
  | none => []
  | some [] => []
  | some text => (text.splitOn COMMA).map fun entry =>
    { name := (entry.splitOn COLON)[0]?.getD []
      hash := (entry.splitOn COLON)[1]?.getD [] }

/-! ### The guard -/

/-- What the guard reads and writes of a request. `header` answers by the lower-case name. -/
structure ApiKeyAuthenticatedRequest where
  header : JsString → Option JsString
  apiKeyName : Option JsString

/-- A request on its way to a handler, with the `IS_PUBLIC_ROUTE` metadata of the handler and of
its class. -/
structure ExecutionContext where
  request : ApiKeyAuthenticatedRequest
  handlerPublic : Option Bool
  classPublic : Option Bool

structure UnauthorizedException where
  message : JsString

def invalidApiKey : UnauthorizedException := ⟨jsString "Invalid API key"⟩

structure ApiKeyGuard where
  apiKeys : List ApiKeyConfig

/-- The guard of an API started with this value of `API_KEYS`. -/
def ApiKeyGuard.ofEnv (value : Option JsString) : ApiKeyGuard where
  apiKeys := parseApiKeys value

/-- `getAllAndOverride`: the metadata of the handler where it has some, else of the class. -/
def ExecutionContext.isPublic (context : ExecutionContext) : Bool :=
  (context.handlerPublic.or context.classPublic).getD false

/-- `crypto.timingSafeEqual`, for buffers of one length. -/
def timingSafeEqual (first second : Bytes) : Bool := first == second

/-- The loop of `authenticate`: whether a configured key matched, and the request, which a match
writes. -/
def authenticateWith (actualBuffer : Bytes) (request : ApiKeyAuthenticatedRequest) :
    List ApiKeyConfig → Bool × ApiKeyAuthenticatedRequest
  | [] => (false, request)
  | configuredKey :: rest =>
    let expectedBuffer := Hex.decode configuredKey.hash
    if expectedBuffer.length == actualBuffer.length &&
        timingSafeEqual actualBuffer expectedBuffer then
      (true, { request with apiKeyName := some configuredKey.name })
    else authenticateWith actualBuffer request rest

section Guard

variable (sha256 : Bytes → List.Vector UInt8 32)

/-- `createHash('sha256').update(apiKey).digest('hex')`. -/
def actualHash (apiKey : JsString) : JsString := Hex.encode (sha256 (utf8Encode apiKey)).toList

def ApiKeyGuard.authenticate (guard : ApiKeyGuard) (apiKey : JsString)
    (request : ApiKeyAuthenticatedRequest) : Bool × ApiKeyAuthenticatedRequest :=
  authenticateWith (Hex.decode (actualHash sha256 apiKey)) request guard.apiKeys

/-- `canActivate`: the request as it goes on to its handler, or what is thrown. -/
def ApiKeyGuard.canActivate (guard : ApiKeyGuard) (context : ExecutionContext) :
    Except UnauthorizedException ApiKeyAuthenticatedRequest :=
  if context.isPublic then .ok context.request
  else
    match context.request.header (jsString "x-api-key") with
    | none => .error invalidApiKey
    | some [] => .error invalidApiKey
    | some apiKey =>
      match guard.authenticate sha256 apiKey context.request with
      | (true, request) => .ok request
      | (false, _) => .error invalidApiKey

end Guard

/-! ### What the pattern accepts -/

/-- An entry as the pattern wants it. -/
structure ApiKeyConfig.WellFormed (entry : ApiKeyConfig) : Prop where
  name_ne_nil : entry.name ≠ []
  name_units : ∀ unit ∈ entry.name, unit ∈ NAME_UNITS
  hash_length : entry.hash.length = 64
  hash_units : ∀ unit ∈ entry.hash, unit ∈ HASH_UNITS

/-- `name:hash`. -/
def ApiKeyConfig.text (entry : ApiKeyConfig) : JsString := entry.name ++ COLON :: entry.hash

/-- The entries written in a value of `API_KEYS`. -/
structure WrittenApiKeys (entries : List ApiKeyConfig) (value : JsString) : Prop where
  ne_nil : entries ≠ []
  wellFormed : ∀ entry ∈ entries, entry.WellFormed
  joined : value = [COMMA].intercalate (entries.map ApiKeyConfig.text)

theorem mem_unitRange {first last : Nat} {unit : UInt16} (small : last < 2 ^ 16) :
    unit ∈ unitRange first last ↔ first ≤ unit.toNat ∧ unit.toNat ≤ last := by
  rw [unitRange, List.mem_map]
  constructor
  · rintro ⟨code, inRange, rfl⟩
    rw [List.mem_range'_1] at inRange
    have same : code.toUInt16.toNat = code := Nat.mod_eq_of_lt (by omega)
    rw [same]
    omega
  · rintro ⟨lower, upper⟩
    refine ⟨unit.toNat, ?_, UInt16.ofNat_toNat⟩
    rw [List.mem_range'_1]
    omega

theorem mem_name_units {unit : UInt16} :
    unit ∈ NAME_UNITS ↔ 0x41 ≤ unit.toNat ∧ unit.toNat ≤ 0x5A ∨
      0x61 ≤ unit.toNat ∧ unit.toNat ≤ 0x7A ∨ 0x30 ≤ unit.toNat ∧ unit.toNat ≤ 0x39 ∨
      unit = 0x5F ∨ unit = 0x2E ∨ unit = 0x2D := by
  rw [NAME_UNITS, List.mem_append, List.mem_append, List.mem_append, mem_unitRange (by decide),
    mem_unitRange (by decide), mem_unitRange (by decide), or_assoc, or_assoc, List.mem_cons,
    List.mem_pair]

/-- The digits of the pattern are those the decoder reads. -/
theorem mem_hash_units {unit : UInt16} :
    unit ∈ HASH_UNITS ↔ (Json.hexValue unit).isSome = true := by
  rw [HASH_UNITS, List.mem_append, List.mem_append, mem_unitRange (by decide),
    mem_unitRange (by decide), mem_unitRange (by decide)]
  unfold Json.hexValue
  simp only [isDigit, Bool.and_eq_true, decide_eq_true_eq]
  split_ifs with decimal lower upper
  · exact iff_of_true (Or.inr decimal) rfl
  · exact iff_of_true (Or.inl (Or.inl lower)) rfl
  · exact iff_of_true (Or.inl (Or.inr upper)) rfl
  · refine iff_of_false ?_ Bool.false_ne_true
    rintro ((inLower | inUpper) | inDecimal)
    · exact lower inLower
    · exact upper inUpper
    · exact decimal inDecimal

theorem comma_notMem_name : COMMA ∉ NAME_UNITS := by
  rw [mem_name_units]
  decide

theorem colon_notMem_name : COLON ∉ NAME_UNITS := by
  rw [mem_name_units]
  decide

theorem comma_notMem_hash : COMMA ∉ HASH_UNITS := by
  rw [mem_hash_units]
  decide

theorem colon_notMem_hash : COLON ∉ HASH_UNITS := by
  rw [mem_hash_units]
  decide

theorem mem_entryPattern {text : JsString} :
    text ∈ entryPattern.matches' ↔
      ∃ entry : ApiKeyConfig, entry.WellFormed ∧ text = entry.text := by
  rw [entryPattern, RegularExpression.matches'_mul, Language.mem_mul]
  constructor
  · rintro ⟨name, isName, tail, isTail, rfl⟩
    rw [RegularExpression.matches'_mul, Language.mem_mul] at isTail
    obtain ⟨_, isColon, hash, isHash, rfl⟩ := isTail
    obtain rfl := Set.mem_singleton_iff.mp isColon
    obtain ⟨nonempty, nameUnits⟩ := Pattern.mem_oneOrMore_oneOf.mp isName
    obtain ⟨length, hashUnits⟩ := Pattern.mem_pow_oneOf.mp isHash
    exact ⟨{ name, hash }, ⟨nonempty, nameUnits, length, hashUnits⟩, rfl⟩
  · rintro ⟨entry, wellFormed, rfl⟩
    refine ⟨entry.name, ?_, COLON :: entry.hash, ?_, rfl⟩
    · exact Pattern.mem_oneOrMore_oneOf.mpr ⟨wellFormed.name_ne_nil, wellFormed.name_units⟩
    · refine Language.mem_mul.mpr ⟨[COLON], rfl, entry.hash, ?_, rfl⟩
      exact Pattern.mem_pow_oneOf.mpr ⟨wellFormed.hash_length, wellFormed.hash_units⟩

/-- Validation accepts exactly the values some entries are written in. -/
theorem validatesApiKeys_iff {value : JsString} :
    validatesApiKeys (some value) = true ↔ ∃ entries, WrittenApiKeys entries value := by
  rw [validatesApiKeys, Option.any_some, RegularExpression.rmatch_iff_matches', API_KEYS_PATTERN,
    Pattern.mem_separated]
  constructor
  · rintro ⟨parts, nonempty, matched, rfl⟩
    have written : ∃ entries : List ApiKeyConfig, (∀ entry ∈ entries, entry.WellFormed) ∧
        parts = entries.map ApiKeyConfig.text := by
      clear nonempty
      induction parts with
      | nil => exact ⟨[], fun _ member => absurd member List.not_mem_nil, rfl⟩
      | cons part rest inductionHypothesis =>
        obtain ⟨head, tail⟩ := List.forall_mem_cons.mp matched
        obtain ⟨entry, wellFormed, rfl⟩ := mem_entryPattern.mp head
        obtain ⟨entries, others, rfl⟩ := inductionHypothesis tail
        exact ⟨entry :: entries, List.forall_mem_cons.mpr ⟨wellFormed, others⟩, rfl⟩
    obtain ⟨entries, wellFormed, rfl⟩ := written
    exact ⟨entries, fun empty => nonempty (empty ▸ rfl), wellFormed, rfl⟩
  · rintro ⟨entries, nonempty, wellFormed, joined⟩
    refine ⟨entries.map ApiKeyConfig.text, fun empty => nonempty (List.map_eq_nil_iff.mp empty),
      fun part isPart => ?_, joined⟩
    obtain ⟨entry, member, rfl⟩ := List.mem_map.mp isPart
    exact mem_entryPattern.mpr ⟨entry, wellFormed entry member, rfl⟩

/-! ### What splitting finds -/

namespace ApiKeyConfig.WellFormed

variable {entry : ApiKeyConfig}

theorem comma_notMem (wellFormed : entry.WellFormed) : COMMA ∉ entry.text := by
  rw [ApiKeyConfig.text, List.mem_append, List.mem_cons, not_or, not_or]
  refine ⟨fun inName => ?_, by decide, fun inHash => ?_⟩
  · exact comma_notMem_name (wellFormed.name_units COMMA inName)
  · exact comma_notMem_hash (wellFormed.hash_units COMMA inHash)

/-- The colon an entry is split at is the one behind its name. -/
theorem splitOn_colon (wellFormed : entry.WellFormed) :
    entry.text.splitOn COLON = [entry.name, entry.hash] := by
  have joined : entry.text = [COLON].intercalate [entry.name, entry.hash] := by
    rw [List.intercalate_cons_cons, List.intercalate_singleton, List.append_assoc,
      List.singleton_append, ApiKeyConfig.text]
  rw [joined]
  refine List.splitOn_intercalate COLON ?_ (List.cons_ne_nil _ _)
  intro part isPart
  rcases List.mem_pair.mp isPart with rfl | rfl
  · exact fun inName => colon_notMem_name (wellFormed.name_units COLON inName)
  · exact fun inHash => colon_notMem_hash (wellFormed.hash_units COLON inHash)

theorem isText_hash (wellFormed : entry.WellFormed) : Hex.IsText entry.hash := by
  refine ⟨?_, fun unit member => mem_hash_units.mp (wellFormed.hash_units unit member)⟩
  rw [wellFormed.hash_length]
  decide

theorem length_decode_hash (wellFormed : entry.WellFormed) :
    (Hex.decode entry.hash).length = 32 := by
  have double := Hex.length_decode wellFormed.isText_hash
  rw [wellFormed.hash_length] at double
  omega

end ApiKeyConfig.WellFormed

section WrittenApiKeys

variable {entries : List ApiKeyConfig} {value : JsString}

theorem WrittenApiKeys.splitOn_comma (written : WrittenApiKeys entries value) :
    value.splitOn COMMA = entries.map ApiKeyConfig.text := by
  rw [written.joined]
  refine List.splitOn_intercalate COMMA ?_ fun empty => ?_
  · intro part isPart
    obtain ⟨entry, member, rfl⟩ := List.mem_map.mp isPart
    exact (written.wellFormed entry member).comma_notMem
  · exact written.ne_nil (List.map_eq_nil_iff.mp empty)

theorem WrittenApiKeys.value_ne_nil (written : WrittenApiKeys entries value) : value ≠ [] := by
  intro empty
  have split := written.splitOn_comma
  obtain ⟨entry, rest, rfl⟩ := List.exists_cons_of_ne_nil written.ne_nil
  rw [empty, List.splitOn_nil, List.map_cons] at split
  have noText := (List.cons.inj split).1
  rw [ApiKeyConfig.text] at noText
  exact List.cons_ne_nil _ _ (List.append_eq_nil_iff.mp noText.symm).2

/-- `parseApiKeys` returns the entries that are written. -/
theorem WrittenApiKeys.parseApiKeys (written : WrittenApiKeys entries value) :
    parseApiKeys (some value) = entries := by
  have parsed : MessageManagement.parseApiKeys (some value) =
      (value.splitOn COMMA).map fun entry =>
        { name := (entry.splitOn COLON)[0]?.getD []
          hash := (entry.splitOn COLON)[1]?.getD [] } := by
    obtain ⟨unit, rest, rfl⟩ := List.exists_cons_of_ne_nil written.value_ne_nil
    rfl
  rw [parsed, written.splitOn_comma, List.map_map]
  conv_rhs => rw [← List.map_id entries]
  refine List.map_congr_left fun entry member => ?_
  rw [Function.comp_apply, (written.wellFormed entry member).splitOn_colon]
  rfl

end WrittenApiKeys

/-! ### What the guard admits -/

section Guard

variable {sha256 : Bytes → List.Vector UInt8 32}

variable (sha256) in
/-- The digest of the key is the hash of the entry, whatever the case of its digits. -/
def ApiKeyConfig.Matches (entry : ApiKeyConfig) (apiKey : JsString) : Prop :=
  Hex.lowerCase entry.hash = Hex.lowerCase (actualHash sha256 apiKey)

variable (sha256) in
/-- On a route that is not public the guard admits the keys that match one of these entries, in
the name of the first that matches. -/
structure ApiKeyGuard.AdmitsExactly (guard : ApiKeyGuard) (entries : List ApiKeyConfig) :
    Prop where
  admits_iff : ∀ context : ExecutionContext, context.isPublic = false →
    ((∃ admitted, guard.canActivate sha256 context = .ok admitted) ↔
      ∃ apiKey, context.request.header (jsString "x-api-key") = some apiKey ∧ apiKey ≠ [] ∧
        ∃ entry ∈ entries, entry.Matches sha256 apiKey)
  first : ∀ (context : ExecutionContext) (admitted : ApiKeyAuthenticatedRequest),
    context.isPublic = false → guard.canActivate sha256 context = .ok admitted →
      ∃ apiKey before entry after,
        context.request.header (jsString "x-api-key") = some apiKey ∧
        entries = before ++ entry :: after ∧
        (∀ other ∈ before, ¬ other.Matches sha256 apiKey) ∧ entry.Matches sha256 apiKey ∧
        admitted = { context.request with apiKeyName := some entry.name }
  refused : ∀ context exception, guard.canActivate sha256 context = .error exception →
    exception = invalidApiKey

/-- The hash of a well-formed entry is compared as a whole. -/
theorem ApiKeyConfig.WellFormed.matches_iff {entry : ApiKeyConfig} (wellFormed : entry.WellFormed)
    (apiKey : JsString) :
    ((Hex.decode entry.hash).length == (Hex.decode (actualHash sha256 apiKey)).length &&
      timingSafeEqual (Hex.decode (actualHash sha256 apiKey)) (Hex.decode entry.hash)) = true ↔
        entry.Matches sha256 apiKey := by
  have digest : Hex.decode (actualHash sha256 apiKey) = (sha256 (utf8Encode apiKey)).toList :=
    Hex.decode_encode _
  have lengths : (Hex.decode entry.hash).length = (sha256 (utf8Encode apiKey)).toList.length := by
    rw [wellFormed.length_decode_hash, List.Vector.toList_length]
  rw [digest, lengths, beq_self_eq_true, Bool.true_and, timingSafeEqual, beq_iff_eq, eq_comm,
    Hex.decode_eq_iff wellFormed.isText_hash]
  rfl

variable {entries : List ApiKeyConfig}

/-- The loop stops at the first entry that matches, if there is one. -/
theorem authenticateWith_spec (wellFormed : ∀ entry ∈ entries, entry.WellFormed)
    (apiKey : JsString) (request : ApiKeyAuthenticatedRequest) :
    (∃ before entry after, entries = before ++ entry :: after ∧
      (∀ other ∈ before, ¬ other.Matches sha256 apiKey) ∧ entry.Matches sha256 apiKey ∧
      authenticateWith (Hex.decode (actualHash sha256 apiKey)) request entries =
        (true, { request with apiKeyName := some entry.name })) ∨
    (∀ entry ∈ entries, ¬ entry.Matches sha256 apiKey) ∧
      authenticateWith (Hex.decode (actualHash sha256 apiKey)) request entries =
        (false, request) := by
  induction entries with
  | nil => exact Or.inr ⟨fun _ member => absurd member List.not_mem_nil, rfl⟩
  | cons head rest inductionHypothesis =>
    obtain ⟨headWellFormed, others⟩ := List.forall_mem_cons.mp wellFormed
    rw [authenticateWith]
    by_cases headMatches : head.Matches sha256 apiKey
    · rw [if_pos ((headWellFormed.matches_iff apiKey).mpr headMatches)]
      exact Or.inl ⟨[], head, rest, rfl, fun _ member => absurd member List.not_mem_nil,
        headMatches, rfl⟩
    · rw [if_neg (mt (headWellFormed.matches_iff apiKey).mp headMatches)]
      rcases inductionHypothesis others with
        ⟨before, entry, after, rfl, none, here, found⟩ | ⟨none, nothing⟩
      · exact Or.inl ⟨head :: before, entry, after, rfl,
          List.forall_mem_cons.mpr ⟨headMatches, none⟩, here, found⟩
      · exact Or.inr ⟨List.forall_mem_cons.mpr ⟨headMatches, none⟩, nothing⟩

/-- On a route that is not public a request is admitted in the name of the first entry that its
key matches, and refused in one way. -/
theorem canActivate_spec (wellFormed : ∀ entry ∈ entries, entry.WellFormed)
    {context : ExecutionContext} (guarded : context.isPublic = false) :
    (∃ apiKey before entry after,
      context.request.header (jsString "x-api-key") = some apiKey ∧ apiKey ≠ [] ∧
      entries = before ++ entry :: after ∧
      (∀ other ∈ before, ¬ other.Matches sha256 apiKey) ∧ entry.Matches sha256 apiKey ∧
      ApiKeyGuard.canActivate sha256 { apiKeys := entries } context =
        .ok { context.request with apiKeyName := some entry.name }) ∨
    (∀ apiKey, context.request.header (jsString "x-api-key") = some apiKey → apiKey ≠ [] →
      ∀ entry ∈ entries, ¬ entry.Matches sha256 apiKey) ∧
      ApiKeyGuard.canActivate sha256 { apiKeys := entries } context = .error invalidApiKey := by
  unfold ApiKeyGuard.canActivate
  rw [guarded, if_neg Bool.false_ne_true]
  cases header : context.request.header (jsString "x-api-key") with
  | none => exact Or.inr ⟨fun _ same => absurd same.symm (Option.some_ne_none _), rfl⟩
  | some apiKey =>
    cases apiKey with
    | nil => exact Or.inr ⟨fun _ same nonempty => absurd (Option.some.inj same).symm nonempty, rfl⟩
    | cons unit rest =>
      dsimp only
      rw [ApiKeyGuard.authenticate]
      rcases authenticateWith_spec wellFormed (unit :: rest) context.request with
        ⟨before, entry, after, same, none, here, found⟩ | ⟨none, nothing⟩
      · rw [found]
        exact Or.inl ⟨unit :: rest, before, entry, after, rfl, List.cons_ne_nil unit rest, same,
          none, here, rfl⟩
      · rw [nothing]
        exact Or.inr ⟨fun apiKey same _ => Option.some.inj same ▸ none, rfl⟩

theorem admitsExactly_of_wellFormed (wellFormed : ∀ entry ∈ entries, entry.WellFormed) :
    ApiKeyGuard.AdmitsExactly sha256 { apiKeys := entries } entries where
  admits_iff context guarded := by
    rcases canActivate_spec wellFormed guarded with
      ⟨apiKey, before, entry, after, header, nonempty, same, _, here, ok⟩ | ⟨none, error⟩
    · refine iff_of_true ⟨_, ok⟩ ⟨apiKey, header, nonempty, entry, ?_, here⟩
      rw [same]
      exact List.mem_append_right before List.mem_cons_self
    · refine iff_of_false ?_ ?_
      · rintro ⟨admitted, ok⟩
        rw [error] at ok
        cases ok
      · rintro ⟨apiKey, header, nonempty, entry, member, here⟩
        exact none apiKey header nonempty entry member here
  first context admitted guarded admits := by
    rcases canActivate_spec wellFormed guarded with
      ⟨apiKey, before, entry, after, header, _, same, none, here, ok⟩ | ⟨_, error⟩
    · rw [ok] at admits
      exact ⟨apiKey, before, entry, after, header, same, none, here, (Except.ok.inj admits).symm⟩
    · rw [error] at admits
      cases admits
  refused context exception thrown := by
    cases route : context.isPublic with
    | true =>
      rw [ApiKeyGuard.canActivate, route, if_pos rfl] at thrown
      cases thrown
    | false =>
      rcases canActivate_spec wellFormed route with
        ⟨_, _, _, _, _, _, _, _, _, ok⟩ | ⟨_, error⟩
      · rw [ok] at thrown
        cases thrown
      · rw [error] at thrown
        exact (Except.error.inj thrown).symm

/-! ### The gate -/

variable (sha256) in
/-- Whatever value of `API_KEYS` validation accepts, and whatever SHA-256 is: the value is
written from one list of entries only, `parseApiKeys` returns this list, and the guard admits
the keys of its entries. Without a value nothing is admitted. -/
theorem apiKeyGuard_admits_configured_keys :
    (∀ value, validatesApiKeys (some value) = true →
      ∃ entries, WrittenApiKeys entries value ∧
        (∀ others, WrittenApiKeys others value → others = entries) ∧
        parseApiKeys (some value) = entries ∧
        (ApiKeyGuard.ofEnv (some value)).AdmitsExactly sha256 entries) ∧
    ∀ value, value = none ∨ value = some [] → ∀ context : ExecutionContext,
      context.isPublic = false →
        (ApiKeyGuard.ofEnv value).canActivate sha256 context = .error invalidApiKey := by
  refine ⟨fun value accepted => ?_, fun value absent context guarded => ?_⟩
  · obtain ⟨entries, written⟩ := validatesApiKeys_iff.mp accepted
    refine ⟨entries, written, fun others alsoWritten => ?_, written.parseApiKeys, ?_⟩
    · rw [← written.parseApiKeys, alsoWritten.parseApiKeys]
    · rw [ApiKeyGuard.ofEnv, written.parseApiKeys]
      exact admitsExactly_of_wellFormed written.wellFormed
  · have empty : ApiKeyGuard.ofEnv value = { apiKeys := [] } := by
      rcases absent with rfl | rfl
      · rfl
      · rfl
    have noEntries : ∀ entry ∈ ([] : List ApiKeyConfig), entry.WellFormed :=
      fun _ member => absurd member List.not_mem_nil
    rw [empty]
    rcases canActivate_spec noEntries guarded with
      ⟨_, before, _, _, _, _, same, _⟩ | ⟨_, error⟩
    · exact absurd same.symm (List.append_ne_nil_of_right_ne_nil before (List.cons_ne_nil _ _))
    · exact error

end Guard

/-- The SHA-256 of the key `secret`. -/
def secretDigest : List.Vector UInt8 32 :=
  ⟨[43, 184, 13, 83, 123, 29, 163, 227, 139, 211, 3, 97, 170, 133, 86, 134, 189, 224, 234, 205,
    113, 98, 254, 246, 162, 95, 233, 123, 245, 39, 162, 91], rfl⟩

/-- The hash of `secret` in upper case, and again in lower case under another name. -/
def secretEntries : List ApiKeyConfig :=
  [{ name := jsString "ops"
     hash := jsString "2BB80D537B1DA3E38BD30361AA855686BDE0EACD7162FEF6A25FE97BF527A25B" },
    { name := jsString "dev"
      hash := jsString "2bb80d537b1da3e38bd30361aa855686bde0eacd7162fef6a25fe97bf527a25b" }]

def secretContext : ExecutionContext where
  request :=
    { header := fun name =>
        if name = jsString "x-api-key" then some (jsString "secret") else none
      apiKeyName := none }
  handlerPublic := none
  classPublic := none

theorem written_secretEntries :
    WrittenApiKeys secretEntries ([COMMA].intercalate (secretEntries.map ApiKeyConfig.text)) where
  ne_nil := List.cons_ne_nil _ _
  wellFormed entry member := by
    have lengths : (secretEntries.all fun entry =>
        entry.name.length == 3 && entry.hash.length == 64) = true := by
      decide +kernel
    have letters : (secretEntries.all fun entry => entry.name.all fun unit =>
        0x61 ≤ unit.toNat && unit.toNat ≤ 0x7A) = true := by
      decide +kernel
    have digits : (secretEntries.all fun entry => entry.hash.all fun unit =>
        (Json.hexValue unit).isSome) = true := by
      decide +kernel
    simp only [List.all_eq_true, Bool.and_eq_true, beq_iff_eq, decide_eq_true_eq]
      at lengths letters digits
    obtain ⟨three, length⟩ := lengths entry member
    refine ⟨List.ne_nil_of_length_eq_add_one three, fun unit inName => ?_, length,
      fun unit inHash => mem_hash_units.mpr (digits entry member unit inHash)⟩
    exact mem_name_units.mpr (Or.inr (Or.inl (letters entry member unit inName)))
  joined := rfl

theorem apiKeyGuard_admits_secret :
    ∃ admitted, (ApiKeyGuard.ofEnv
        (some ([COMMA].intercalate (secretEntries.map ApiKeyConfig.text)))).canActivate
          (fun _ => secretDigest) secretContext = .ok admitted ∧
      admitted.apiKeyName = some (jsString "ops") := by
  obtain ⟨entries, _, unique, _, admits⟩ :=
    (apiKeyGuard_admits_configured_keys fun _ => secretDigest).1 _
      (validatesApiKeys_iff.mpr ⟨secretEntries, written_secretEntries⟩)
  rw [← unique secretEntries written_secretEntries] at admits
  have header : secretContext.request.header (jsString "x-api-key") = some (jsString "secret") := by
    simp only [secretContext, if_true]
  have eachMatches : ∀ entry ∈ secretEntries,
      entry.Matches (fun _ => secretDigest) (jsString "secret") := by
    unfold ApiKeyConfig.Matches
    decide +kernel
  obtain ⟨admitted, ok⟩ := (admits.admits_iff secretContext rfl).mpr
    ⟨jsString "secret", header, by decide, _, List.mem_cons_self, eachMatches _ List.mem_cons_self⟩
  obtain ⟨apiKey, before, entry, after, sent, same, none, _, rfl⟩ :=
    admits.first secretContext admitted rfl ok
  rw [header, Option.some_inj] at sent
  cases before with
  | nil => exact ⟨_, ok, congrArg (fun entry => some entry.name) (List.cons.inj same).1.symm⟩
  | cons other before =>
    have first := none other List.mem_cons_self
    rw [← (List.cons.inj same).1, ← sent] at first
    exact absurd (eachMatches _ List.mem_cons_self) first

end MessageManagement
