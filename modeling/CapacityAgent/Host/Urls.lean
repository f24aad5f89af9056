/-
# The configured URLs

`ParseUrl` takes the push URL apart, `ParseHostPort` the one of Ollama. Both say by a
boolean whether there is a host, and convert the port by `std::stoi`, which throws; the
threads that call them catch nothing.
-/

import CapacityAgent.Library.Search
import CapacityAgent.Numerals
import CapacityAgent.Ollama.Runtime

namespace CapacityAgent

open Search Signed Strtol

/-! ## Taking a URL apart -/

/-- Whether the scheme is `https`, and what follows the scheme. -/
def cutScheme (url : Bytes) : Bool × Bytes :=
  match find (lit "://") url with
  | some schemeEnd => (url.take schemeEnd = lit "https", url.drop (schemeEnd + 3))
  | none => (false, url)

/-- What stands before the first slash, and the path. -/
def cutPath (rest : Bytes) : Bytes × Bytes :=
  match find [byte '/'] rest with
  | some slash => (rest.take slash, rest.drop slash)
  | none => (rest, lit "/api/ingest/snapshot")

/-- The host and the port around the last colon. -/
def cutPort (absent : ℤ) (authority : Bytes) : Except Thrown (Bytes × ℤ) :=
  match rfind (byte ':') authority with
  | some colon =>
    (convert 32 (authority.drop (colon + 1))).map fun port => (authority.take colon, port)
  | none => .ok (authority, absent)

/-- `return !host.empty()`, with what else was found. -/
def unlessHostless {α : Type} (host : Bytes) (found : α) : Option α :=
  if host.isEmpty then none else some found

/-- Where a snapshot is posted to. -/
structure Endpoint where
  host : Bytes
  port : ℤ
  path : Bytes
  deriving DecidableEq

/-- What `ParseUrl` looks for the port in. -/
def pushAuthority (url : Bytes) : Bytes := (cutPath (cutScheme url).2).1

/-- `ParseUrl`, absent where it returns false. -/
def parseUrl (url : Bytes) : Except Thrown (Option Endpoint) :=
  let path := (cutPath (cutScheme url).2).2
  (cutPort (if (cutScheme url).1 then 443 else 80) (pushAuthority url)).map fun found =>
    unlessHostless found.1 ⟨found.1, found.2, path⟩

/-- What `ParseHostPort` looks for the port in. -/
def ollamaAuthority (url : Bytes) : Bytes :=
  let rest := (cutScheme url).2
  if rest.getLast? = some (byte '/') then rest.dropLast else rest

/-- `ParseHostPort`, absent where it returns false. -/
def parseHostPort (url : Bytes) : Except Thrown (Option (Bytes × ℤ)) :=
  (cutPort 11434 (ollamaAuthority url)).map fun found => unlessHostless found.1 found

/-! ## The threads that use them -/

/-- What one turn of `PushLoop` meets: the answer of the own server, and the one of the
remote server when it is asked. -/
structure PushTurn where
  snapshot : Option HttpResponse
  answer : Endpoint → Bytes → Option HttpResponse

/-- `PushOnce`. -/
def pushOnce (url : CStr) (turn : PushTurn) : Except Thrown Bool :=
  match turn.snapshot with
  | none => .ok false
  | some snap =>
    if snap.status ≠ 200 then .ok false
    else
      (parseUrl url.bytes).map fun
        | none => false
        | some endpoint =>
          match turn.answer endpoint snap.body with
          | none => false
          | some answer => decide (answer.status = 200)

/-- `PushLoop`, turn by turn. -/
def pushLoop (url : CStr) : List PushTurn → Except Thrown Unit
  | [] => .ok ()
  | turn :: rest => (pushOnce url turn).bind fun _ => pushLoop url rest

/-- The result of `OllamaRuntimeCollector::Initialize`; it does not depend on whether
Ollama answers. -/
def ollamaInitialize (url : CStr) : Except Thrown Bool :=
  (parseHostPort url.bytes).map Option.isSome

/-- `OllamaRuntimeCollector::PollLoop`, poll by poll. -/
def ollamaPollLoop (machineId url : CStr) : List OllamaPoll → Except Thrown Unit
  | [] => .ok ()
  | poll :: rest =>
    (((parseHostPort url.bytes).map fun _ => pollOnce machineId url poll.nowMs poll.answer).bind
      fun _ => ollamaPollLoop machineId url rest)

/-! ## Harmless URLs -/

def IsPort (n : ℤ) : Prop := 1 ≤ n ∧ n ≤ 65535

/-- A parser returned, with a port if it returned true. -/
def Settled {α : Type} (port : α → ℤ) (result : Except Thrown (Option α)) : Prop :=
  ∃ found, result = .ok found ∧ ∀ endpoint ∈ found, IsPort (port endpoint)

/-- As a push URL the string is parsed or rejected, and `PushLoop` goes on for ever. -/
def PushUrlHarmless (url : CStr) : Prop :=
  Settled Endpoint.port (parseUrl url.bytes) ∧ ∀ turns, pushLoop url turns = .ok ()

/-- As the URL of Ollama it is parsed or rejected, `Initialize` returns and `PollLoop`
goes on for ever. -/
def OllamaUrlHarmless (url : CStr) : Prop :=
  Settled Prod.snd (parseHostPort url.bytes) ∧ (∃ ready, ollamaInitialize url = .ok ready) ∧
    ∀ machineId polls, ollamaPollLoop machineId url polls = .ok ()

/-- What follows the last colon, if there is one, begins with an integer of an `int`, and
with a port unless nothing stands before the colon. -/
def PortUsable (authority : Bytes) : Prop :=
  ∀ colon ∈ rfind (byte ':') authority, ∃ n, leading (authority.drop (colon + 1)) = some n ∧
    Fits 32 n ∧ (colon = 0 ∨ IsPort n)

/-- What a URL goes on with after its first `://`, or all of it where there is none. -/
def FollowsScheme (url rest : Bytes) : Prop :=
  (∃ scheme, url = scheme ++ lit "://" ++ rest ∧
      ∀ before after, url = before ++ lit "://" ++ after → scheme.length ≤ before.length) ∨
    ¬ lit "://" <:+: url ∧ rest = url

theorem followsScheme_iff {url rest : Bytes} :
    FollowsScheme url rest ↔ (cutScheme url).2 = rest := by
  unfold FollowsScheme cutScheme
  cases first : find (lit "://") url with
  | none =>
    have absent := find_eq_none_iff.mp first
    constructor
    · rintro (⟨scheme, rfl, -⟩ | ⟨-, rfl⟩)
      · exact absurd ⟨scheme, rest, rfl⟩ absent
      · rfl
    · rintro rfl
      exact .inr ⟨absent, rfl⟩
  | some schemeEnd =>
    obtain ⟨⟨scheme, after, cut, rfl⟩, least⟩ := find_eq_some_iff.mp first
    have follows : url.drop (scheme.length + 3) = after := by
      have three : 3 = (lit "://").length := by decide
      rw [cut, ← List.drop_drop, List.append_assoc, List.drop_left, three, List.drop_left]
    dsimp only
    rw [follows]
    constructor
    · rintro (⟨scheme', cut', least'⟩ | ⟨absent, -⟩)
      · -- both schemes end at the first place
        have same : scheme.length = scheme'.length :=
          Nat.le_antisymm (least scheme' rest cut') (least' scheme after cut)
        have joined := cut.symm.trans cut'
        rw [List.append_assoc, List.append_assoc] at joined
        exact List.append_cancel_left (List.append_inj_right joined same)
      · exact absurd ⟨scheme, after, cut.symm⟩ absent
    · rintro rfl
      exact .inl ⟨scheme, cut, least⟩

theorem cutPath_eq_takeWhile (rest : Bytes) :
    (cutPath rest).1 = rest.takeWhile (· != byte '/') := by
  unfold cutPath
  by_cases occurs : byte '/' ∈ rest
  · obtain ⟨before, after, rfl, absent⟩ := List.eq_append_cons_of_mem occurs
    have first : find [byte '/'] (before ++ byte '/' :: after) = some before.length :=
      find_separator absent [] after
    rw [first, takeWhile_bne_append_cons, takeWhile_bne_of_notMem absent]
    exact List.take_left
  · rw [find_eq_none_of_notMem occurs, takeWhile_bne_of_notMem occurs]

/-- The authority of a push URL goes from the scheme to the next slash. -/
theorem pushAuthority_eq_iff {url authority : Bytes} :
    pushAuthority url = authority ↔ ∃ rest, FollowsScheme url rest ∧ byte '/' ∉ authority ∧
      (rest = authority ∨ ∃ path, rest = authority ++ byte '/' :: path) := by
  simp only [pushAuthority, cutPath_eq_takeWhile, takeWhile_bne_eq_iff, followsScheme_iff,
    exists_eq_left']

/-- That of the URL of Ollama is all that follows the scheme, less one slash at the end. -/
theorem ollamaAuthority_eq_iff {url authority : Bytes} :
    ollamaAuthority url = authority ↔ ∃ rest, FollowsScheme url rest ∧
      (rest = authority ++ [byte '/'] ∨ ¬ [byte '/'] <:+ rest ∧ rest = authority) := by
  simp only [followsScheme_iff, exists_eq_left', ollamaAuthority]
  -- from here on only the slash at the end matters
  generalize (cutScheme url).2 = rest
  split_ifs with slash
  · obtain ⟨before, rfl⟩ := List.getLast?_eq_some_iff.mp slash
    rw [List.dropLast_concat, List.append_left_inj]
    exact (or_iff_left fun other => other.1 (List.suffix_append before _)).symm
  · have noSlash : ∀ before, rest ≠ before ++ [byte '/'] := fun before ends =>
      slash (by rw [ends, List.getLast?_concat])
    have noSuffix : ¬ [byte '/'] <:+ rest := fun ⟨before, ends⟩ => noSlash before ends.symm
    rw [or_iff_right (noSlash authority), and_iff_right noSuffix]

theorem mem_unlessHostless {α : Type} {host : Bytes} {found endpoint : α} :
    endpoint ∈ unlessHostless host found ↔ host ≠ [] ∧ found = endpoint := by
  cases host with
  | nil => simp [unlessHostless]
  | cons b rest => simp [unlessHostless]

/-- Cutting the port off, and returning the host only where it is not empty, settles
exactly for a usable port. -/
theorem settled_cutPort_iff {α : Type} {port : α → ℤ} {absent : ℤ} (isPort : IsPort absent)
    (endpoint : Bytes × ℤ → α) (keeps : ∀ found, port (endpoint found) = found.2)
    (authority : Bytes) :
    Settled port ((cutPort absent authority).map fun found =>
      unlessHostless found.1 (endpoint found)) ↔ PortUsable authority := by
  unfold cutPort PortUsable Settled
  cases last : rfind (byte ':') authority with
  | none =>
    refine iff_of_true ⟨_, rfl, fun found member => ?_⟩ nofun
    obtain ⟨-, rfl⟩ := mem_unlessHostless.mp member
    rw [keeps]
    exact isPort
  | some colon =>
    have hostEmpty : authority.take colon = [] ↔ colon = 0 := by
      rw [List.take_eq_nil_iff]
      refine or_iff_left fun empty => ?_
      rw [empty] at last
      exact nomatch last
    simp only [Option.mem_def, Option.some.injEq, forall_eq']
    constructor
    · rintro ⟨found, returned, ports⟩
      cases converted : convert 32 (authority.drop (colon + 1)) with
      | error thrown => rw [converted] at returned; exact nomatch returned
      | ok n =>
        obtain ⟨begins, fits⟩ := convert_eq_ok_iff.mp converted
        refine ⟨n, begins, fits, ?_⟩
        rw [converted] at returned
        by_cases hostless : colon = 0
        · exact .inl hostless
        · have member : endpoint (authority.take colon, n) ∈ found :=
            Except.ok.inj returned ▸ mem_unlessHostless.mpr
              ⟨fun empty => hostless (hostEmpty.mp empty), rfl⟩
          have port := ports _ member
          rw [keeps] at port
          exact .inr port
    · rintro ⟨n, begins, fits, usable⟩
      rw [convert_eq_ok_iff.mpr ⟨begins, fits⟩]
      refine ⟨_, rfl, fun found member => ?_⟩
      obtain ⟨host, rfl⟩ := mem_unlessHostless.mp member
      rw [keeps]
      exact usable.resolve_left fun first => host (hostEmpty.mpr first)

/-- A parser that returns gives a turn of `PushLoop` a result. -/
theorem exists_pushOnce {url : CStr} {found : Option Endpoint}
    (returns : parseUrl url.bytes = .ok found) (turn : PushTurn) :
    ∃ pushed, pushOnce url turn = .ok pushed := by
  unfold pushOnce
  rw [returns]
  cases turn.snapshot with
  | none => exact ⟨_, rfl⟩
  | some snap =>
    by_cases failed : snap.status ≠ 200
    · exact ⟨_, if_pos failed⟩
    · exact ⟨_, if_neg failed⟩

theorem pushLoop_eq_ok {url : CStr} {found : Option Endpoint}
    (returns : parseUrl url.bytes = .ok found) (turns : List PushTurn) :
    pushLoop url turns = .ok () := by
  induction turns with
  | nil => rfl
  | cons turn rest ih =>
    obtain ⟨pushed, result⟩ := exists_pushOnce returns turn
    rw [pushLoop, result]
    exact ih

theorem ollamaPollLoop_eq_ok {url : CStr} {found : Option (Bytes × ℤ)}
    (returns : parseHostPort url.bytes = .ok found) (machineId : CStr) (polls : List OllamaPoll) :
    ollamaPollLoop machineId url polls = .ok () := by
  induction polls with
  | nil => rfl
  | cons poll rest ih =>
    rw [ollamaPollLoop, returns]
    exact ih

theorem isPort_default (https : Bool) : IsPort (if https then 443 else 80) := by
  cases https <;> exact ⟨by decide, by decide⟩

/-- **When a configured URL is harmless**: exactly when what follows the last colon of its
authority, if there is one, begins with an integer of an `int`, and with a port unless the
host is missing. -/
theorem urlHarmless_iff (url : CStr) :
    (PushUrlHarmless url ↔ PortUsable (pushAuthority url.bytes)) ∧
      (OllamaUrlHarmless url ↔ PortUsable (ollamaAuthority url.bytes)) := by
  let endpoint (found : Bytes × ℤ) : Endpoint :=
    ⟨found.1, found.2, (cutPath (cutScheme url.bytes).2).2⟩
  have push : Settled Endpoint.port (parseUrl url.bytes) ↔ PortUsable (pushAuthority url.bytes) :=
    settled_cutPort_iff (isPort_default _) endpoint (fun _ => rfl) _
  have ollama : Settled Prod.snd (parseHostPort url.bytes) ↔
      PortUsable (ollamaAuthority url.bytes) :=
    settled_cutPort_iff ⟨by decide, by decide⟩ (fun found => found) (fun _ => rfl) _
  rw [← push, ← ollama]
  refine ⟨⟨And.left, fun settled => ⟨settled, ?_⟩⟩, ⟨And.left, fun settled => ⟨settled, ?_⟩⟩⟩
  · obtain ⟨found, returns, -⟩ := settled
    exact pushLoop_eq_ok returns
  · obtain ⟨found, returns, -⟩ := settled
    exact ⟨⟨found.isSome, by rw [ollamaInitialize, returns]; rfl⟩, ollamaPollLoop_eq_ok returns⟩

/-- A port that is no number ends the process: in the first turn of `PushLoop` that has a
snapshot, and in `Initialize`. One that is too large is returned. -/
theorem url_not_always_harmless :
    ¬ (∀ url, PushUrlHarmless url ∧ OllamaUrlHarmless url) ∧
      pushLoop (text "http://api:port/snapshot") [⟨some ⟨200, []⟩, fun _ _ => none⟩] =
        .error .invalidArgument ∧
      ollamaInitialize (text "http://localhost:") = .error .invalidArgument ∧
      parseHostPort (lit "http://localhost:114340") = .ok (some (lit "localhost", 114340)) := by
  have ends : ollamaInitialize (text "http://localhost:") = .error .invalidArgument := by
    decide +kernel
  refine ⟨fun always => ?_, by decide +kernel, ends, by decide +kernel⟩
  obtain ⟨ready, returned⟩ := (always (text "http://localhost:")).2.2.1
  exact nomatch ends.symm.trans returned

/-! ## Around the last colon -/

theorem cutPort_of_notMem {authority : Bytes} (noColon : byte ':' ∉ authority) (absent : ℤ) :
    cutPort absent authority = .ok (authority, absent) := by
  rw [cutPort, rfind_eq_none_iff.mpr noColon]

theorem cutPort_separator {after : Bytes} (noColon : byte ':' ∉ after) (absent : ℤ)
    (before : Bytes) :
    cutPort absent (before ++ byte ':' :: after) =
      (convert 32 after).map fun port => (before, port) := by
  rw [cutPort, rfind_separator noColon]
  dsimp only
  rw [← List.drop_drop, List.drop_left, List.drop_one, List.tail_cons, List.take_left]

/-! ## The host alone -/

theorem afterScheme_eq (url : Bytes) :
    afterScheme url = (find (lit "://") url).map fun schemeEnd => url.drop (schemeEnd + 3) := by
  induction url with
  | nil => rfl
  | cons b rest ih =>
    rw [afterScheme, find, ih]
    by_cases here : lit "://" <+: b :: rest
    · rw [if_pos here, if_pos here]
      rfl
    · rw [if_neg here, if_neg here, Option.map_map]
      rfl

/-- What stands before the last colon. -/
theorem cutPort_host {authority : Bytes} {absent : ℤ} {found : Bytes × ℤ}
    (cut : cutPort absent authority = .ok found) :
    found.1 = if byte ':' ∈ authority
      then (authority.reverse.dropWhile (· != byte ':')).tail.reverse else authority := by
  cases last : rfind (byte ':') authority with
  | none =>
    have noColon := rfind_eq_none_iff.mp last
    rw [cutPort_of_notMem noColon] at cut
    rw [if_neg noColon, ← Except.ok.inj cut]
  | some colon =>
    obtain ⟨before, after, rfl, -, noColon⟩ := exists_cut_of_rfind last
    have host : found.1 = before := by
      rw [cutPort_separator noColon] at cut
      cases converted : convert 32 after with
      | error thrown =>
        rw [converted] at cut
        exact nomatch cut
      | ok port =>
        rw [converted] at cut
        rw [← Except.ok.inj cut]
    have skipped : ∀ b ∈ after.reverse, (b != byte ':') = true := fun b member =>
      bne_iff_ne.mpr fun same => noColon (same ▸ List.mem_reverse.mp member)
    rw [host, if_pos (by simp), List.reverse_append, List.reverse_cons, List.append_assoc,
      List.dropWhile_append_of_pos skipped]
    simp

/-- `parseHost` is `ParseHostPort` where it returns. -/
theorem parseHost_of_parseHostPort {url : Bytes} {found : Option (Bytes × ℤ)}
    (returns : parseHostPort url = .ok found) : parseHost url = found.map Prod.fst := by
  have rest : (afterScheme url).getD url = (cutScheme url).2 := by
    rw [afterScheme_eq, cutScheme]
    cases find (lit "://") url <;> rfl
  unfold parseHostPort at returns
  cases cut : cutPort 11434 (ollamaAuthority url) with
  | error thrown => rw [cut] at returns; exact nomatch returns
  | ok pair =>
    rw [cut] at returns
    have host := cutPort_host cut
    rw [ollamaAuthority, ← rest] at host
    unfold parseHost
    dsimp only at host ⊢
    rw [← host, ← Except.ok.inj returns]
    cases hostless : pair.1.isEmpty <;> simp [unlessHostless, hostless]

/-! ## Rendered URLs -/

/-- The parts of a URL. -/
structure UrlParts where
  scheme : Bytes
  host : Bytes
  port : Option ℤ
  path : Option Bytes
  scheme_ne : scheme ≠ []
  noColon_scheme : byte ':' ∉ scheme
  noSlash_scheme : byte '/' ∉ scheme
  host_ne : host ≠ []
  noColon_host : byte ':' ∉ host
  noSlash_host : byte '/' ∉ host
  isPort : ∀ n ∈ port, IsPort n
  slash_path : ∀ p ∈ path, p.head? = some (byte '/')

namespace UrlParts

variable (parts : UrlParts)

/-- `host[:port]`. -/
def authority : Bytes := parts.host ++ parts.port.elim [] fun n => byte ':' :: decimal n

/-- `scheme://host[:port][path]`. -/
def render : Bytes := parts.scheme ++ (lit "://" ++ (parts.authority ++ parts.path.getD []))

/-- Where the URL leads, with the defaults. -/
def endpoint : Endpoint where
  host := parts.host
  port := parts.port.getD (if parts.scheme = lit "https" then 443 else 80)
  path := parts.path.getD (lit "/api/ingest/snapshot")

/-- The first `://` is the one behind the scheme. -/
theorem cutScheme_render :
    cutScheme parts.render =
      (decide (parts.scheme = lit "https"), parts.authority ++ parts.path.getD []) := by
  have first : find (lit "://") parts.render = some parts.scheme.length :=
    find_separator parts.noColon_scheme (lit "//") _
  rw [cutScheme, first]
  dsimp only
  rw [render, List.take_left, ← List.drop_drop, List.drop_left]
  rfl

theorem noSlash_authority : byte '/' ∉ parts.authority := by
  intro member
  rcases List.mem_append.mp member with inHost | inPort
  · exact parts.noSlash_host inHost
  · cases given : parts.port with
    | none =>
      rw [given] at inPort
      exact nomatch inPort
    | some n =>
      rw [given] at inPort
      rcases List.mem_cons.mp inPort with colon | digit
      · exact absurd colon (by decide)
      · exact notMem_decimal (by decide) (by decide) n digit

/-- The first slash behind the scheme begins the path. -/
theorem cutPath_render :
    cutPath (parts.authority ++ parts.path.getD []) =
      (parts.authority, parts.path.getD (lit "/api/ingest/snapshot")) := by
  cases given : parts.path with
  | none =>
    have noSlash : find [byte '/'] (parts.authority ++ []) = none := by
      rw [List.append_nil]
      exact find_eq_none_of_notMem parts.noSlash_authority []
    rw [cutPath, Option.getD_none, noSlash, List.append_nil, Option.getD_none]
  | some path =>
    obtain ⟨tail, rfl⟩ := List.head?_eq_some_iff.mp (parts.slash_path path given)
    have first : find [byte '/'] (parts.authority ++ byte '/' :: tail) =
        some parts.authority.length :=
      find_separator parts.noSlash_authority [] tail
    rw [cutPath, Option.getD_some, first]
    simp

theorem fits_of_isPort {n : ℤ} (isPort : IsPort n) : Fits 32 n := by
  obtain ⟨low, high⟩ := isPort
  constructor <;> norm_num <;> omega

/-- The last colon of the authority is the one before the port. -/
theorem cutPort_authority (absent : ℤ) :
    cutPort absent parts.authority = .ok (parts.host, parts.port.getD absent) := by
  unfold authority
  cases given : parts.port with
  | none =>
    rw [Option.elim_none, List.append_nil, cutPort_of_notMem parts.noColon_host]
    rfl
  | some n =>
    have noColon : byte ':' ∉ decimal n := notMem_decimal (by decide) (by decide) n
    have converted : convert 32 (decimal n) = .ok n :=
      convert_eq_ok_iff.mpr
        ⟨leading_of_whole (whole_decimal n), fits_of_isPort (parts.isPort n given)⟩
    rw [Option.elim_some, cutPort_separator noColon, converted]
    rfl

end UrlParts

/-- **`ParseUrl` inverts rendering**: of every URL made of its parts it returns these,
with the defaults of those that are absent. -/
theorem parseUrl_render (parts : UrlParts) :
    parseUrl parts.render = .ok (some parts.endpoint) := by
  unfold parseUrl pushAuthority
  simp only [parts.cutScheme_render, parts.cutPath_render, parts.cutPort_authority,
    decide_eq_true_eq]
  have hostGiven : parts.host.isEmpty = false := by
    rw [List.isEmpty_eq_false_iff]
    exact parts.host_ne
  rw [Except.map, unlessHostless, hostGiven]
  rfl

/-- The URL of the deployment notes. -/
def centralApi : UrlParts where
  scheme := lit "http"
  host := lit "192.168.2.2"
  port := some 8099
  path := some (lit "/api/ingest/snapshot")
  scheme_ne := by decide
  noColon_scheme := by decide
  noSlash_scheme := by decide
  host_ne := by decide
  noColon_host := by decide
  noSlash_host := by decide
  isPort := by
    rintro n member
    obtain rfl := Option.some.inj member
    exact ⟨by decide, by decide⟩
  slash_path := by
    rintro p member
    obtain rfl := Option.some.inj member
    rfl

example : centralApi.render = lit "http://192.168.2.2:8099/api/ingest/snapshot" := by
  decide +kernel

end CapacityAgent
