import InferenceBench.Accuracy.Client
import InferenceBench.Proofs.Text.Split
import Mathlib.Data.List.DropRight

/-! # The base URL of a server

A base URL is made bare before a path is put behind it. The collector of responses does so once;
a benchmark does so twice, since it keeps the bare form and resolves its endpoint from that. The
second time changes nothing exactly if the bare form does not end in white space, and then both
come to the same endpoint. Whether there is an endpoint at all is decided by the part of the URL
that names the server, so the collector never has one of its two endpoints without the other.
-/

namespace InferenceBench

/-! ## Bare base URLs -/

/-- No white space stands before the slashes that end a base URL. -/
def EndsPlain (baseUrl : String) : Prop :=
  ∀ c ∈ (bareBaseUrl baseUrl).getLast?, Text.isBlank c = false

instance (baseUrl : String) : Decidable (EndsPlain baseUrl) :=
  decidable_of_iff ((bareBaseUrl baseUrl).getLast?.all (!Text.isBlank ·) = true)
    (by simp [EndsPlain, Option.all_eq_true])

theorem bareBaseUrl_eq (baseUrl : String) :
    bareBaseUrl baseUrl =
      ((baseUrl.toList.dropWhile Text.isBlank).rdropWhile Text.isBlank).rdropWhile (· = '/') :=
  rfl

theorem not_isBlank_head_bareBaseUrl {baseUrl : String} {c : Char}
    (first : (bareBaseUrl baseUrl).head? = some c) : Text.isBlank c = false := by
  obtain ⟨slashes, bare⟩ := List.rdropWhile_prefix (· = '/')
    ((baseUrl.toList.dropWhile Text.isBlank).rdropWhile Text.isBlank)
  obtain ⟨blanks, trimmed⟩ := List.rdropWhile_prefix Text.isBlank
    (baseUrl.toList.dropWhile Text.isBlank)
  have start : (baseUrl.toList.dropWhile Text.isBlank).head? = some c := by
    rw [← trimmed, ← bare, ← bareBaseUrl_eq, List.append_assoc, List.head?_append, first]
    rfl
  have plain := List.head?_dropWhile_not Text.isBlank baseUrl.toList
  rwa [start] at plain

theorem rdropWhile_eq_self {p : Char → Bool} {text : List Char} :
    text.rdropWhile p = text ↔ ∀ c ∈ text.getLast?, p c = false := by
  rw [List.rdropWhile_eq_self_iff]
  cases text using List.reverseRecOn with
  | nil => simp
  | append_singleton text c => simp

/-- Making a bare base URL bare again changes it only if it ends in white space. -/
theorem bareBaseUrl_bareBaseUrl {baseUrl : String} :
    bareBaseUrl (String.ofList (bareBaseUrl baseUrl)) = bareBaseUrl baseUrl ↔
      EndsPlain baseUrl := by
  have start : (bareBaseUrl baseUrl).dropWhile Text.isBlank = bareBaseUrl baseUrl := by
    cases bare : bareBaseUrl baseUrl with
    | nil => rfl
    | cons c rest =>
        have plain := not_isBlank_head_bareBaseUrl (congrArg List.head? bare)
        rw [List.dropWhile_cons_of_neg (by simp [plain])]
  rw [bareBaseUrl_eq (String.ofList _), String.toList_ofList, start, EndsPlain,
    ← rdropWhile_eq_self]
  constructor
  · intro same
    have shorter := (List.rdropWhile_prefix (· = '/')
      ((bareBaseUrl baseUrl).rdropWhile Text.isBlank)).length_le
    rw [same] at shorter
    exact (List.rdropWhile_prefix _ _).eq_of_length_le shorter
  · intro same
    rw [same, bareBaseUrl_eq, List.rdropWhile_idempotent]

theorem resolveEndpoint_bareBaseUrl {baseUrl : String} (plain : EndsPlain baseUrl)
    (path : String) :
    (resolveEndpoint (String.ofList (bareBaseUrl baseUrl)) path).toOption =
      (resolveEndpoint baseUrl path).toOption := by
  simp only [resolveEndpoint, bareBaseUrl_bareBaseUrl.mpr plain]
  split
  · rfl
  · rfl

/-! ## The part that names the server -/

namespace Url

/-- The part of a URL between its scheme and its path, as it is read. -/
def authority (text : List Char) : List Char :=
  (((text.reverse.dropWhile (·.toNat ≤ 0x20)).reverse.filter (!isDropped ·)).dropWhile
    isSlash).takeWhile (!endsAuthority ·)

/-- Whether an authority names a server. -/
def namesServer (scheme : Scheme) (authority : List Char) : Bool :=
  let (host, port) := splitHost false (splitUserinfo authority).2
  (hostText? host).isSome && (readPort? scheme port).isSome

theorem isSome_ofText? {text rest : List Char} {scheme : Scheme}
    (stripped : Scheme.strip? text = some (scheme, rest)) :
    (ofText? text).isSome = namesServer scheme (authority rest) := by
  simp only [ofText?, stripped, namesServer, authority]
  generalize hostText? _ = host
  generalize readPort? scheme _ = port
  cases host with
  | none => rfl
  | some host => cases port <;> rfl

/-- A path that can be put behind a base URL: it does not start with a slash, does not end in
white space, and has nothing in it that a URL is read without. -/
structure PlainPath (path : List Char) : Prop where
  first : ∀ c ∈ path.head?, isSlash c = false
  last : ∃ c ∈ path.getLast?, 0x20 < c.toNat
  kept : ∀ c ∈ path, isDropped c = false

theorem authority_append {path : List Char} (plain : PlainPath path) (text : List Char) :
    authority (text ++ '/' :: path) =
      match (text.filter (!isDropped ·)).dropWhile isSlash with
      | [] => path.takeWhile (!endsAuthority ·)
      | c :: rest => (c :: rest).takeWhile (!endsAuthority ·) := by
  obtain ⟨start, last, same, visible⟩ :
      ∃ start last, path = start ++ [last] ∧ 0x20 < last.toNat := by
    obtain ⟨c, last, visible⟩ := plain.last
    exact ⟨_, c, (List.dropLast_append_getLast? c last).symm, visible⟩
  have trimmed : ((text ++ '/' :: path).reverse.dropWhile (·.toNat ≤ 0x20)).reverse =
      text ++ '/' :: path := by
    rw [same, List.reverse_append, List.reverse_cons, List.reverse_append]
    simp [visible]
  have kept : ('/' :: path).filter (!isDropped ·) = '/' :: path := by
    rw [List.filter_eq_self]
    intro c member
    obtain rfl | inside := List.mem_cons.mp member
    · rfl
    · rw [plain.kept c inside]
      rfl
  have slash : ('/' :: path).dropWhile isSlash = path := by
    rw [List.dropWhile_cons_of_pos (by decide)]
    cases path with
    | nil => rfl
    | cons c path => rw [List.dropWhile_cons_of_neg (by simp [plain.first c rfl])]
  rw [authority, trimmed, List.filter_append, kept, List.dropWhile_append, slash]
  cases (text.filter (!isDropped ·)).dropWhile isSlash with
  | nil => rfl
  | cons c rest =>
      simp only [List.isEmpty_cons, Bool.false_eq_true, if_false]
      have stops : ('/' :: path).takeWhile (!endsAuthority ·) = [] :=
        List.takeWhile_cons_of_neg (by decide)
      rw [List.takeWhile_append, stops, List.append_nil]
      split
      · next whole => exact ((List.takeWhile_prefix _).eq_of_length whole).symm
      · rfl

theorem Scheme.strip?_eq_some {text rest : List Char} {scheme : Scheme} :
    strip? text = some (scheme, rest) ↔ text = scheme.text ++ rest := by
  constructor
  · intro stripped
    unfold strip? at stripped
    split at stripped
    · next isHttp =>
        cases stripped
        exact (List.isPrefixOf?_eq_some_iff_append_eq.mp isHttp).symm
    · next isHttps =>
        cases stripped
        exact (List.isPrefixOf?_eq_some_iff_append_eq.mp isHttps).symm
    · cases stripped
  · rintro rfl
    have own : scheme.text.isPrefixOf? (scheme.text ++ rest) = some rest :=
      List.isPrefixOf?_eq_some_iff_append_eq.mpr rfl
    cases scheme with
    | http => rw [strip?, own]
    | https =>
        have other : Scheme.http.text.isPrefixOf? (Scheme.https.text ++ rest) = none := rfl
        rw [strip?, own, other]

end Url

open Url

theorem plainPath_of_checks {path : List Char} {last : Char}
    (first : path.head?.all (!isSlash ·) = true) (isLast : path.getLast? = some last)
    (visible : 0x20 < last.toNat) (kept : path.all (!isDropped ·) = true) : PlainPath path where
  first := by simpa [Option.all_eq_true] using first
  last := ⟨last, isLast, visible⟩
  kept := by simpa using kept

theorem plainPath_health : PlainPath (healthPath.toList.dropWhile (· = '/')) :=
  @plainPath_of_checks _ 'h' (by decide) (by decide) (by decide) (by decide)

theorem plainPath_chat : PlainPath (chatPath.toList.dropWhile (· = '/')) :=
  @plainPath_of_checks _ 's' (by decide) (by decide) (by decide) (by decide)

/-- A base URL without a server of its own takes the first segment of the path for one. -/
theorem namesServer_of_path (scheme : Scheme) :
    namesServer scheme "health".toList = true ∧ namesServer scheme "v1".toList = true := by
  cases scheme <;> decide +kernel

theorem isSome_resolveEndpoint {baseUrl : String} {scheme : Scheme} {rest : List Char}
    (stripped : Scheme.strip? (bareBaseUrl baseUrl) = some (scheme, rest)) (path : String) :
    (resolveEndpoint baseUrl path).toOption.isSome =
      namesServer scheme (authority (rest ++ '/' :: path.toList.dropWhile (· = '/'))) := by
  have joined : Scheme.strip? (bareBaseUrl baseUrl ++ '/' :: path.toList.dropWhile (· = '/')) =
      some (scheme, rest ++ '/' :: path.toList.dropWhile (· = '/')) := by
    rw [Scheme.strip?_eq_some] at stripped ⊢
    rw [stripped, List.append_assoc]
  rw [← isSome_ofText? joined]
  simp only [resolveEndpoint, stripped, Option.isNone_some, Bool.false_eq_true, if_false]
  split <;> next read => rw [read]; rfl

theorem isSome_health_eq_chat (baseUrl : String) :
    (resolveEndpoint baseUrl healthPath).toOption.isSome =
      (resolveEndpoint baseUrl chatPath).toOption.isSome := by
  cases stripped : Scheme.strip? (bareBaseUrl baseUrl) with
  | none => simp [resolveEndpoint, stripped, Except.toOption]
  | some parts =>
      obtain ⟨scheme, rest⟩ := parts
      rw [isSome_resolveEndpoint stripped,
        isSome_resolveEndpoint stripped, authority_append plainPath_health,
        authority_append plainPath_chat]
      split
      · obtain ⟨health, chat⟩ := namesServer_of_path scheme
        exact health.trans chat.symm
      · rfl

/-! ## The two clients -/

/-- Figures with which a benchmark can be run. -/
structure ValidFigures (concurrency numRequests maxNewTokens : Nat) (costPerHour : Float) :
    Prop where
  concurrent : concurrency ≠ 0
  requests : numRequests ≠ 0
  tokens : maxNewTokens ≠ 0
  finite : costPerHour.isFinite = true
  nonneg : ¬ costPerHour < 0

section

variable {model : String} {concurrency numRequests maxNewTokens : Nat} {costPerHour : Float}

theorem endpoint_ofFigures
    (valid : ValidFigures concurrency numRequests maxNewTokens costPerHour)
    (named : isBlankName model = false) (baseUrl : String) :
    (BenchmarkConfig.ofFigures baseUrl model concurrency numRequests maxNewTokens
      costPerHour).toOption.map (·.endpoint) =
      (resolveEndpoint (String.ofList (bareBaseUrl baseUrl)) chatPath).toOption := by
  simp only [BenchmarkConfig.ofFigures, if_neg valid.concurrent, if_neg valid.requests,
    if_neg valid.tokens, named, valid.finite, valid.nonneg, decide_false, Bool.not_true,
    Bool.or_false, Bool.false_eq_true, if_false]
  split <;> next resolved => rw [resolved]; rfl

theorem chatUrl_ofModel (named : isBlankName model = false) (baseUrl : String) :
    (AccuracyClient.ofModel baseUrl model).toOption.map (·.chatUrl) =
      (resolveEndpoint baseUrl chatPath).toOption := by
  have both := isSome_health_eq_chat baseUrl
  simp only [AccuracyClient.ofModel, named, Bool.false_eq_true, if_false]
  cases health : resolveEndpoint baseUrl healthPath with
  | error => cases chat : resolveEndpoint baseUrl chatPath with
    | error => rfl
    | ok chatUrl => simp [health, chat, Except.toOption] at both
  | ok healthUrl => cases chat : resolveEndpoint baseUrl chatPath <;> rfl

/-- A benchmark talks to the endpoint that the collector would use for the bare base URL. Making
that bare once more changes nothing exactly if it does not end in white space; then the two accept
the same base URLs, and come to the same endpoint. -/
theorem endpoints_agree
    (valid : ValidFigures concurrency numRequests maxNewTokens costPerHour)
    (named : isBlankName model = false) (baseUrl : String) :
    let config := BenchmarkConfig.ofFigures baseUrl model concurrency numRequests maxNewTokens
      costPerHour
    let client baseUrl := AccuracyClient.ofModel baseUrl model
    (client baseUrl).toOption.map (·.chatUrl) = (resolveEndpoint baseUrl chatPath).toOption ∧
      config.toOption.map (·.endpoint) =
        (client (String.ofList (bareBaseUrl baseUrl))).toOption.map (·.chatUrl) ∧
      (bareBaseUrl (String.ofList (bareBaseUrl baseUrl)) = bareBaseUrl baseUrl ↔
        EndsPlain baseUrl) ∧
      (EndsPlain baseUrl →
        config.toOption.map (·.endpoint) = (client baseUrl).toOption.map (·.chatUrl)) := by
  intro config client
  have chat : ∀ baseUrl, (client baseUrl).toOption.map (·.chatUrl) =
      (resolveEndpoint baseUrl chatPath).toOption := chatUrl_ofModel named
  have endpoint := endpoint_ofFigures valid named baseUrl
  refine ⟨chat baseUrl, endpoint.trans (chat _).symm, bareBaseUrl_bareBaseUrl, ?_⟩
  intro plain
  rw [chat baseUrl, ← resolveEndpoint_bareBaseUrl plain]
  exact endpoint

end

theorem endpoints_agree_spaced :
    ValidFigures 32 64 128 0.16 ∧ isBlankName "m" = false ∧ EndsPlain " http://h:80/v2// " ∧
      (BenchmarkConfig.ofFigures " http://h:80/v2// " "m" 32 64 128 0.16).toOption.map
          (·.endpoint) =
        (AccuracyClient.ofModel " http://h:80/v2// " "m").toOption.map (·.chatUrl) := by
  have valid : ValidFigures 32 64 128 0.16 :=
    ⟨by decide, by decide, by decide, by decide +kernel, by decide +kernel⟩
  have plain : EndsPlain " http://h:80/v2// " := by decide
  exact ⟨valid, by decide, plain, (endpoints_agree valid (by decide) _).2.2.2 plain⟩

/-- With a space before the last slash the two talk to different paths. Where the space stands in
the host, only the benchmark accepts the base URL, and where nothing else does, only the
collector. -/
theorem endpoints_differ :
    (BenchmarkConfig.ofFigures "http://h/ /" "m" 32 64 128 0.16).toOption.map (·.endpoint.text) =
        some "http://h/v1/chat/completions".toList ∧
      (AccuracyClient.ofModel "http://h/ /" "m").toOption.map (·.chatUrl.text) =
        some "http://h/%20/v1/chat/completions".toList ∧
      (BenchmarkConfig.ofFigures "http://h /" "m" 32 64 128 0.16).toOption.isSome = true ∧
      (AccuracyClient.ofModel "http://h /" "m").toOption.isSome = false ∧
      (BenchmarkConfig.ofFigures "http://\t/" "m" 32 64 128 0.16).toOption.isSome = false ∧
      (AccuracyClient.ofModel "http://\t/" "m").toOption.isSome = true := by
  decide +kernel

end InferenceBench
