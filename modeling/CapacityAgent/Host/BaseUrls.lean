/-
# Base URLs of Ollama

`ParseHostPort` does the work of `ParseUrl` a second time. It drops one slash at the end and
never cuts at the path, so which host it finds depends on where colons stand in the path and
on whether there is a port in front of it.
-/

import CapacityAgent.Host.Urls

namespace CapacityAgent

open Search Signed Strtol

/-! ## Where a URL leads -/

/-- Without one slash at the end. -/
def trimSlash (rest : Bytes) : Bytes :=
  if rest.getLast? = some (byte '/') then rest.dropLast else rest

/-- A text that is cut into the host and the port: the host alone, where it is the default
port, or a last colon behind the host and the port at the start of what follows. -/
def LeadsTo (host : Bytes) (n : ℤ) (text : Bytes) : Prop :=
  (text = host ∧ n = 11434) ∨
    ∃ after, text = host ++ byte ':' :: after ∧ byte ':' ∉ after ∧ leading after = some n

namespace UrlParts

variable (parts : UrlParts)

/-- `host[:port][path]`. -/
def bare : Bytes := parts.authority ++ parts.path.getD []

/-- `ParseHostPort` returns the host and the port, and `ParseUrl` returns the same host. -/
def HostFound (url : Bytes) : Prop :=
  parseHostPort url = .ok (some (parts.host, parts.port.getD 11434)) ∧
    ∃ endpoint, parseUrl url = .ok (some endpoint) ∧ endpoint.host = parts.host

/-- No colon in the path, and no path but a slash where there is no port. -/
def Plain : Prop :=
  byte ':' ∉ parts.path.getD [] ∧ (parts.port = none → parts.path.getD [] ∈ [[], [byte '/']])

/-- Behind the first `://` of the path, the host and the port stand once more. -/
def LeadsBack : Prop :=
  ∃ schemeEnd ∈ find (lit "://") (parts.path.getD []),
    LeadsTo parts.host (parts.port.getD 11434)
      (trimSlash ((parts.path.getD []).drop (schemeEnd + 3)))

end UrlParts

/-! ## What is cut off -/

section Cutting

theorem ends_slash : Ends (byte '/') := by
  refine ⟨?_, ?_, ?_, ?_⟩ <;> decide

theorem ollamaAuthority_eq (url : Bytes) : ollamaAuthority url = trimSlash (cutScheme url).2 := rfl

theorem trimSlash_cases (rest : Bytes) :
    (trimSlash rest = rest ∧ rest.getLast? ≠ some (byte '/')) ∨
      rest = trimSlash rest ++ [byte '/'] := by
  unfold trimSlash
  split_ifs with last
  · obtain ⟨before, rfl⟩ := List.getLast?_eq_some_iff.mp last
    exact .inr (by rw [List.dropLast_concat])
  · exact .inl ⟨rfl, last⟩

theorem trimSlash_append {before : Bytes} (noSlash : byte '/' ∉ before) (rest : Bytes) :
    trimSlash (before ++ rest) = before ++ trimSlash rest := by
  unfold trimSlash
  cases rest with
  | nil =>
    rw [List.append_nil, if_neg fun last => noSlash (List.mem_of_getLast? last)]
    exact (List.append_nil _).symm
  | cons b more =>
    have nonempty := List.cons_ne_nil b more
    rw [List.getLast?_append_of_ne_nil _ nonempty, List.dropLast_append_of_ne_nil nonempty]
    split_ifs <;> rfl

theorem colon_mem_trimSlash_iff (rest : Bytes) : byte ':' ∈ trimSlash rest ↔ byte ':' ∈ rest := by
  rcases trimSlash_cases rest with ⟨same, -⟩ | cut
  · rw [same]
  · conv_rhs => rw [cut]
    rw [List.mem_append, List.mem_singleton]
    exact (or_iff_left (by decide)).symm

theorem trimSlash_eq_nil_iff (rest : Bytes) : trimSlash rest = [] ↔ rest ∈ [[], [byte '/']] := by
  rcases trimSlash_cases rest with ⟨same, last⟩ | cut
  · rw [same, List.mem_pair]
    refine (or_iff_left ?_).symm
    rintro rfl
    exact last rfl
  · generalize trimSlash rest = trimmed at cut
    rw [cut, List.mem_pair]
    constructor
    · rintro rfl
      exact .inr rfl
    · rintro (nothing | slash)
      · exact absurd nothing (by simp)
      · exact List.append_left_eq_self.mp slash

/-- The path without a slash at its end is empty, or still begins with its slash. -/
theorem head?_trimSlash {rest : Bytes} (slash : ∀ b ∈ rest.head?, b = byte '/') :
    ∀ b ∈ (trimSlash rest).head?, b = byte '/' := by
  rcases trimSlash_cases rest with ⟨same, -⟩ | cut
  · rw [same]
    exact slash
  · intro b first
    refine slash b ?_
    rw [cut]
    exact List.mem_head?_append_of_mem_head? first

/-- A slash at the end is no part of what stands before the first slash. -/
theorem cutPath_fst (rest : Bytes) :
    (cutPath rest).1 = (trimSlash rest).takeWhile (· != byte '/') := by
  rw [cutPath_eq_takeWhile]
  rcases trimSlash_cases rest with ⟨same, -⟩ | cut
  · rw [same]
  · conv_lhs => rw [cut]
    exact takeWhile_bne_append_cons _ _ _

theorem cutPort_eq_ok_iff {host : Bytes} {n : ℤ} (noColon : byte ':' ∉ host) (isPort : IsPort n)
    (text : Bytes) : cutPort 11434 text = .ok (host, n) ↔ LeadsTo host n text := by
  constructor
  · intro cut
    cases last : rfind (byte ':') text with
    | none =>
      rw [cutPort_of_notMem (rfind_eq_none_iff.mp last)] at cut
      obtain ⟨rfl, rfl⟩ := Prod.mk.inj (Except.ok.inj cut)
      exact .inl ⟨rfl, rfl⟩
    | some colon =>
      obtain ⟨before, after, rfl, -, noColon'⟩ := exists_cut_of_rfind last
      rw [cutPort_separator noColon'] at cut
      cases converted : convert 32 after with
      | error thrown =>
        rw [converted] at cut
        cases cut
      | ok port =>
        rw [converted] at cut
        obtain ⟨rfl, rfl⟩ := Prod.mk.inj (Except.ok.inj cut)
        exact .inr ⟨after, rfl, noColon', (convert_eq_ok_iff.mp converted).1⟩
  · rintro (⟨rfl, rfl⟩ | ⟨after, rfl, noColon', begins⟩)
    · exact cutPort_of_notMem noColon _
    · rw [cutPort_separator noColon',
        convert_eq_ok_iff.mpr ⟨begins, UrlParts.fits_of_isPort isPort⟩]
      rfl

/-- `ParseUrl` cuts at the first slash what leads to the host. -/
theorem exists_cutPort_of_leadsTo {host : Bytes} {n : ℤ} (noColon : byte ':' ∉ host)
    (noSlash : byte '/' ∉ host) (isPort : IsPort n) {text : Bytes} (leads : LeadsTo host n text)
    (absent : ℤ) :
    ∃ port, cutPort absent (text.takeWhile (· != byte '/')) = .ok (host, port) := by
  have passes : ∀ b ∈ host, (b != byte '/') = true := fun b member =>
    bne_iff_ne.mpr (ne_of_mem_of_not_mem member noSlash)
  rcases leads with ⟨rfl, -⟩ | ⟨after, rfl, noColon', begins⟩
  · rw [takeWhile_bne_of_notMem noSlash]
    exact ⟨absent, cutPort_of_notMem noColon _⟩
  · have cut : (host ++ byte ':' :: after).takeWhile (· != byte '/') =
        host ++ byte ':' :: after.takeWhile (· != byte '/') := by
      rw [List.takeWhile_append_of_pos passes, List.takeWhile_cons_of_pos (by decide)]
    have noColonCut : byte ':' ∉ after.takeWhile (· != byte '/') := fun member =>
      noColon' ((List.takeWhile_prefix _).subset member)
    have converted : convert 32 (after.takeWhile (· != byte '/')) = .ok n :=
      convert_eq_ok_iff.mpr
        ⟨(leading_takeWhile ends_slash after).trans begins, UrlParts.fits_of_isPort isPort⟩
    rw [cut, cutPort_separator noColonCut, converted]
    exact ⟨n, rfl⟩

end Cutting

namespace UrlParts

variable {parts : UrlParts}

theorem isPort_getD (parts : UrlParts) : IsPort (parts.port.getD 11434) := by
  cases given : parts.port with
  | none => exact ⟨by decide, by decide⟩
  | some n => exact parts.isPort n given

/-- The host is found exactly in a URL that leads to it behind the scheme. -/
theorem hostFound_iff_leadsTo (parts : UrlParts) (url : Bytes) :
    parts.HostFound url ↔
      LeadsTo parts.host (parts.port.getD 11434) (trimSlash (cutScheme url).2) := by
  have hostGiven : parts.host.isEmpty = false := List.isEmpty_eq_false_iff.mpr parts.host_ne
  have cuts := cutPort_eq_ok_iff parts.noColon_host parts.isPort_getD (ollamaAuthority url)
  rw [← ollamaAuthority_eq, ← cuts]
  constructor
  · rintro ⟨found, -⟩
    unfold parseHostPort at found
    cases cut : cutPort 11434 (ollamaAuthority url) with
    | error thrown =>
      rw [cut] at found
      cases found
    | ok pair =>
      rw [cut] at found
      have member : (parts.host, parts.port.getD 11434) ∈ unlessHostless pair.1 pair :=
        Except.ok.inj found
      rw [(mem_unlessHostless.mp member).2]
  · intro cut
    constructor
    · rw [parseHostPort, cut, Except.map, unlessHostless, hostGiven]
      rfl
    · obtain ⟨port, cutAtSlash⟩ := exists_cutPort_of_leadsTo parts.noColon_host
        parts.noSlash_host parts.isPort_getD (cuts.mp cut)
        (if (cutScheme url).1 then 443 else 80)
      rw [ollamaAuthority_eq, ← cutPath_fst] at cutAtSlash
      refine ⟨⟨parts.host, port, (cutPath (cutScheme url).2).2⟩, ?_, rfl⟩
      unfold parseUrl pushAuthority
      rw [cutAtSlash, Except.map, unlessHostless, hostGiven]
      rfl

/-! ## Behind the scheme -/

theorem head?_path (parts : UrlParts) : ∀ b ∈ (parts.path.getD []).head?, b = byte '/' := by
  cases given : parts.path with
  | none => exact fun b first => absurd first (by simp)
  | some path =>
    intro b first
    rw [Option.getD_some, parts.slash_path path given] at first
    exact (Option.some.inj first).symm

/-- Behind the scheme the host is found exactly in the plain URLs. -/
theorem leadsTo_bare_iff (parts : UrlParts) :
    LeadsTo parts.host (parts.port.getD 11434) (trimSlash parts.bare) ↔ parts.Plain := by
  have slash := head?_trimSlash parts.head?_path
  rw [bare, trimSlash_append parts.noSlash_authority, Plain, ← trimSlash_eq_nil_iff,
    ← colon_mem_trimSlash_iff]
  generalize trimSlash (parts.path.getD []) = tail at slash ⊢
  rw [authority, List.append_assoc]
  constructor
  · rintro (⟨hostOnly, -⟩ | ⟨after, cut, noColon, -⟩)
    · obtain ⟨-, nothing⟩ := List.append_eq_nil_iff.mp (List.append_right_eq_self.mp hostOnly)
      exact ⟨by simp [nothing], fun _ => nothing⟩
    · have behind := List.append_cancel_left cut
      cases given : parts.port with
      | none =>
        rw [given, Option.elim_none, List.nil_append] at behind
        -- the path does not begin with a colon
        have colon := slash (byte ':') (by simp [behind])
        exact absurd colon (by decide)
      | some n =>
        rw [given, Option.elim_some, List.cons_append] at behind
        obtain rfl := (List.cons.inj behind).2
        exact ⟨fun member => noColon (List.mem_append_right _ member),
          fun absent => absurd absent (by simp)⟩
  · rintro ⟨noColon, noPath⟩
    cases given : parts.port with
    | none =>
      rw [noPath given]
      exact .inl ⟨by simp, rfl⟩
    | some n =>
      refine .inr ⟨decimal n ++ tail, rfl, ?_, ?_⟩
      · intro member
        rcases List.mem_append.mp member with inPort | inTail
        · exact notMem_decimal (by decide) (by decide) n inPort
        · exact noColon inTail
      · have begins : leading (decimal n) = some n := leading_of_whole (whole_decimal n)
        cases tail with
        | nil =>
          rw [List.append_nil]
          exact begins
        | cons b more =>
          obtain rfl := slash b rfl
          rw [leading_append_cons ends_slash]
          exact begins

/-! ## Without a scheme -/

/-- The first `://` of a URL without a scheme is the first of its path. -/
theorem find_bare (parts : UrlParts) :
    find (lit "://") parts.bare =
      (find (lit "://") (parts.path.getD [])).map (· + parts.authority.length) := by
  have behindHost : ∀ rest : Bytes, find (lit "://") (parts.host ++ rest) =
      (find (lit "://") rest).map (· + parts.host.length) :=
    find_append_of_notMem parts.noColon_host (lit "//")
  rw [bare, authority, List.append_assoc, behindHost]
  cases given : parts.port with
  | none => rw [Option.elim_none, List.nil_append, List.append_nil]
  | some n =>
    have noColon : byte ':' ∉ decimal n := notMem_decimal (by decide) (by decide) n
    have noSlash : byte '/' ∉ decimal n := notMem_decimal (by decide) (by decide) n
    -- the colon in front of the port is followed by a digit
    have noPrefix : ¬ lit "://" <+: byte ':' :: (decimal n ++ parts.path.getD []) := by
      intro starts
      have slash : lit "//" <+: decimal n ++ parts.path.getD [] :=
        (List.cons_prefix_cons.mp starts).2
      obtain ⟨-, -, b, digits, shown, -⟩ := exists_cons_of_whole (whole_decimal n)
      rw [shown] at slash noSlash
      exact noSlash ((List.cons_prefix_cons.mp slash).1 ▸ List.mem_cons_self)
    have behindPort : ∀ rest : Bytes, find (lit "://") (decimal n ++ rest) =
        (find (lit "://") rest).map (· + (decimal n).length) :=
      find_append_of_notMem noColon (lit "//")
    rw [Option.elim_some, List.cons_append, find, if_neg noPrefix, behindPort]
    cases find (lit "://") (parts.path.getD []) with
    | none => rfl
    | some schemeEnd =>
      simp only [Option.map_some, List.length_append, List.length_cons, Option.some.injEq]
      omega

theorem leadsBack_of_find {parts : UrlParts} {schemeEnd : ℕ}
    (first : find (lit "://") (parts.path.getD []) = some schemeEnd) :
    parts.LeadsBack ↔ LeadsTo parts.host (parts.port.getD 11434)
      (trimSlash ((parts.path.getD []).drop (schemeEnd + 3))) := by
  simp only [LeadsBack, first, Option.mem_some, exists_eq_left']

end UrlParts

/-- **Where `ParseHostPort` finds the host.** -/
theorem hostFound_iff (parts : UrlParts) :
    (parts.HostFound parts.render ↔ parts.Plain) ∧
      (parts.HostFound parts.bare ↔ parts.Plain ∨ parts.LeadsBack) := by
  rw [parts.hostFound_iff_leadsTo, parts.hostFound_iff_leadsTo, parts.cutScheme_render]
  refine ⟨parts.leadsTo_bare_iff, ?_⟩
  rw [cutScheme, parts.find_bare]
  cases first : find (lit "://") (parts.path.getD []) with
  | none =>
    have notBack : ¬ parts.LeadsBack := by
      rintro ⟨schemeEnd, found, -⟩
      rw [first] at found
      exact absurd found (by simp)
    rw [or_iff_left notBack]
    exact parts.leadsTo_bare_iff
  | some schemeEnd =>
    have notPlain : ¬ parts.Plain := fun plain => by
      have absent : find (lit "://") (parts.path.getD []) = none :=
        find_eq_none_of_notMem plain.1 (lit "//")
      rw [first] at absent
      exact absurd absent (by simp)
    have behind : schemeEnd + parts.authority.length + 3 =
        parts.authority.length + (schemeEnd + 3) := by omega
    rw [or_iff_right notPlain, UrlParts.leadsBack_of_find first, Option.map_some]
    dsimp only
    rw [behind, ← List.drop_drop, UrlParts.bare, List.drop_left]

example : parseHostPort (lit "proxy/http://proxy") = .ok (some (lit "proxy", 11434)) := by
  decide +kernel

/-- Ollama behind a reverse proxy. -/
def behindProxy : UrlParts :=
  { centralApi with
    host := lit "proxy"
    port := none
    path := some (lit "/ollama")
    host_ne := by decide
    noColon_host := by decide
    noSlash_host := by decide
    isPort := fun _ member => absurd member (Option.not_mem_none _)
    slash_path := by
      rintro p member
      obtain rfl := Option.some.inj member
      rfl }

/-- The path is taken for a part of the host, or for the port. -/
theorem hostFound_fails :
    ¬ (∀ parts : UrlParts, parts.HostFound parts.render ∧ parts.HostFound parts.bare) ∧
      behindProxy.render = lit "http://proxy/ollama" ∧
      parseHostPort (lit "http://proxy/ollama") = .ok (some (lit "proxy/ollama", 11434)) ∧
      parseUrl (lit "http://proxy/ollama") = .ok (some ⟨lit "proxy", 80, lit "/ollama"⟩) ∧
      parseHostPort (lit "http://proxy:80/v1:chat") = .error .invalidArgument := by
  have returned : parseHostPort (lit "http://proxy/ollama") =
      .ok (some (lit "proxy/ollama", 11434)) := by decide +kernel
  refine ⟨fun always => ?_, by decide +kernel, returned, by decide +kernel, by decide +kernel⟩
  have found : parseHostPort (lit "http://proxy/ollama") = .ok (some (lit "proxy", 11434)) :=
    (always behindProxy).1.1
  rw [returned] at found
  exact absurd found (by decide)

end CapacityAgent
