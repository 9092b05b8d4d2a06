import SecretRefs.Connect.Shared
import SecretRefs.Proofs.Connect.Server
import SecretRefs.Proofs.Settings.Validation

/-!
# What accepted settings are good for

Settings are checked for the sake of the client that is made from them: its requests need a URL with
a scheme, and its token file needs a content that starts as asked. The check looks at texts without
the blanks around them, the client takes the texts as they are. So accepted settings are usable
unless the URL or the start of the token begins with a blank, or the client is left with less than a
scheme once it has dropped the slashes at the end of the URL.
-/

namespace SecretRefs.Connect

open Settings.Validation

/-- Settings with which a client can be made that has somewhere to ask: its URL has a scheme, and
there is a content of the token file, wherever that is, in which a token is found. -/
structure Usable (settings : StoreSettings) : Prop where
  schemed (token : String) :
    hasScheme (Client.ofUrl settings.connectUrl token settings.timeout).baseUrl = true
  authorizable : ∃ content token, ∀ (files : Files) (path : String),
    files.readText path = .ok content → Token.load files path settings.tokenStart = .ok token

/-- Whether a URL is a scheme with nothing but slashes behind it. -/
def isBareScheme (url : String) : Bool :=
  schemes.any fun scheme => (scheme.toList.isPrefixOf? url.toList).any (·.all (· == '/'))

/-! ## The URL -/

theorem isBareScheme_iff {url : String} :
    isBareScheme url = true ↔ ∃ scheme ∈ schemes, ∃ slashes : List Char,
      scheme.toList ++ slashes = url.toList ∧ ∀ c ∈ slashes, (c == '/') = true := by
  simp only [isBareScheme, List.any_eq_true, Option.any_eq_true,
    List.isPrefixOf?_eq_some_iff_append_eq, List.all_eq_true]

theorem toList_trimSlashes (text : String) :
    (trimSlashes text).toList = text.toList.rdropWhile (· == '/') :=
  String.toList_ofList

theorem trimSlashes_begins (text : String) : (trimSlashes text).toList <+: text.toList := by
  rw [toList_trimSlashes]
  exact List.rdropWhile_prefix _ _

/-- Slashes are dropped from behind the last character that is none. -/
theorem rdropWhile_append {front back : List Char} (other : ∃ c ∈ back, (c == '/') = false) :
    (front ++ back).rdropWhile (· == '/') = front ++ back.rdropWhile (· == '/') := by
  have kept : (back.reverse.dropWhile (· == '/')).isEmpty = false := by
    obtain ⟨c, member, notSlash⟩ := other
    rw [List.isEmpty_eq_false_iff]
    intro nothing
    have slash := List.dropWhile_eq_nil_iff.mp nothing c (List.mem_reverse.mpr member)
    rw [slash] at notSlash
    cases notSlash
  unfold List.rdropWhile
  rw [List.reverse_append, List.dropWhile_append, kept, if_neg Bool.false_ne_true,
    List.reverse_append, List.reverse_reverse]

/-- The slashes of a bare scheme are dropped with those behind it. -/
theorem not_hasScheme_of_bare {url : String} (bare : isBareScheme url = true) :
    hasScheme (trimSlashes url) = false := by
  obtain ⟨scheme, isScheme, slashes, isUrl, all⟩ := isBareScheme_iff.mp bare
  have left : (trimSlashes url).toList = scheme.toList.rdropWhile (· == '/') := by
    rw [toList_trimSlashes, ← isUrl, List.rdropWhile, List.reverse_append,
      List.dropWhile_append_of_pos fun c member => all c (List.mem_reverse.mp member),
      List.rdropWhile]
  rw [hasScheme, left]
  obtain rfl | rfl := mem_schemes_iff.mp isScheme
  · decide
  · decide

theorem hasScheme_trimSlashes {url : String} (schemed : hasScheme url = true)
    (notBare : isBareScheme url = false) : hasScheme (trimSlashes url) = true := by
  obtain ⟨scheme, isScheme, rest, isUrl⟩ := hasScheme_iff.mp schemed
  have other : ∃ c ∈ rest, (c == '/') = false := by
    by_contra none
    have bare : isBareScheme url = true := by
      refine isBareScheme_iff.mpr ⟨scheme, isScheme, rest, isUrl, fun c member => ?_⟩
      exact (Bool.not_eq_false _).mp fun notSlash => none ⟨c, member, notSlash⟩
    rw [bare] at notBare
    cases notBare
  refine hasScheme_iff.mpr ⟨scheme, isScheme, ?_⟩
  rw [toList_trimSlashes, ← isUrl, rdropWhile_append other]
  exact List.prefix_append _ _

/-- The client has a URL with a scheme exactly if the URL that it is made for begins with one and
is more than that. -/
theorem hasScheme_trimSlashes_iff {url : String} :
    hasScheme (trimSlashes url) = true ↔ hasScheme url = true ∧ isBareScheme url = false := by
  constructor
  · intro schemed
    have whole : hasScheme url = true := hasScheme_of_begins (trimSlashes_begins url) schemed
    refine ⟨whole, ?_⟩
    by_contra bare
    rw [not_hasScheme_of_bare ((Bool.not_eq_false _).mp bare)] at schemed
    cases schemed
  · rintro ⟨schemed, notBare⟩
    exact hasScheme_trimSlashes schemed notBare

/-! ## The token -/

namespace Token

theorem load_of_read {files : Files} {path content : String} (start : Option String)
    (read : files.readText path = .ok content) :
    load files path start = ofContent path start content := by
  rw [load, read]

/-- A token that is found starts as asked, and is a text without blanks around it. -/
theorem begins_of_ofContent {path content token start : String}
    (found : ofContent path (some start) content = .ok token) :
    start.toList <+: (Text.trim content).toList := by
  unfold ofContent at found
  simp only at found
  split at found
  · cases found
  · split at found
    · rename_i begins
      exact List.isPrefixOf_iff_prefix.mp begins
    · cases found

/-- A content with a blank at neither end is the token itself, if it starts as asked. -/
theorem ofContent_eq_ok {path content : String} {start : Option String}
    (first : Text.startsBlank content = false)
    (last : ∀ c ∈ content.toList.getLast?, Text.isBlank c = false) (nonempty : content ≠ "")
    (begins : ∀ text ∈ start, text.toList <+: content.toList) :
    ofContent path start content = .ok content := by
  have kept : Text.trim content = content := by
    rw [Text.trim, Text.trimChars_eq_self (Text.startsBlank_eq_false_iff.mp first) last,
      String.ofList_toList]
  unfold ofContent
  simp only [kept, String.isEmpty_iff, nonempty, if_false]
  cases start with
  | none => rfl
  | some text => simp [List.isPrefixOf_iff_prefix.mpr (begins text rfl)]

/-- Where a token is found, it need not start with a blank. -/
theorem startsBlank_of_load {files : Files} {path token start : String}
    (found : load files path (some start) = .ok token) : Text.startsBlank start = false := by
  unfold load at found
  split at found
  · exact Text.startsBlank_of_begins (begins_of_ofContent found) (Text.startsBlank_trim _)
  · cases found
  · cases found

/-- A file in the root that holds a text. -/
theorem exists_readText (content : String) :
    ∃ (files : Files) (path : String), files.readText path = .ok content := by
  refine ⟨⟨[(["token"], .file content.toUTF8)], "/"⟩, "/token", ?_⟩
  have found : (⟨[(["token"], .file content.toUTF8)], "/"⟩ : Files).find "/token" =
      .ok (.file content.toUTF8) := rfl
  rw [Files.readText, found]
  simp only [Text.fromUTF8?_toUTF8]

/-- A token can be found exactly if it need not start with a blank. -/
theorem exists_load_iff {start : Option String} :
    (∃ content token, ∀ (files : Files) (path : String), files.readText path = .ok content →
      load files path start = .ok token) ↔ ∀ text ∈ start, Text.startsBlank text = false := by
  constructor
  · rintro ⟨content, token, loads⟩ text rfl
    obtain ⟨files, path, read⟩ := exists_readText content
    exact startsBlank_of_load (loads files path read)
  · intro notBlank
    -- An `x` behind the text asked for makes it a token that does not end with a blank either.
    have ends : ∀ text : String, ∀ c ∈ (text ++ "x").toList.getLast?, Text.isBlank c = false := by
      intro text c last
      rw [String.toList_append, show "x".toList = ['x'] from rfl, List.getLast?_concat] at last
      cases last
      decide
    have begins : ∀ text : String, text.toList <+: (text ++ "x").toList := by
      intro text
      rw [String.toList_append]
      exact List.prefix_append _ _
    refine ⟨start.getD "" ++ "x", start.getD "" ++ "x", fun files path read => ?_⟩
    rw [load_of_read _ read]
    cases start with
    | none => exact ofContent_eq_ok rfl (ends "") (by decide) nofun
    | some text =>
      have first : Text.startsBlank (text ++ "x") = false :=
        Text.startsBlank_append (notBlank text rfl) rfl
      refine ofContent_eq_ok first (ends text) (by simp) fun start isStart => ?_
      obtain rfl := Option.some.inj isStart
      exact begins text

end Token

/-! ## Accepted settings -/

/-- Accepted settings are usable unless the URL or the start asked of tokens begins with a blank,
or the URL is a scheme with nothing but slashes behind it. -/
theorem usable_iff_of_accepted {settings : Settings} (accepted : check settings = .ok settings) :
    Usable settings.store ↔
      Text.startsBlank settings.store.connectUrl = false ∧
      isBareScheme settings.store.connectUrl = false ∧
      ∀ start ∈ settings.store.tokenStart, Text.startsBlank start = false := by
  have faultless := check_eq_ok_iff.mp accepted
  simp only [details, List.append_eq_nil_iff] at faultless
  have urlAccepted : urlFaults settings.store.connectUrl = [] := faultless.1.1.1.1.1.1
  constructor
  · rintro ⟨schemed, authorizable⟩
    obtain ⟨schemed, notBare⟩ := hasScheme_trimSlashes_iff.mp (schemed "")
    exact ⟨startsBlank_of_hasScheme schemed, notBare, Token.exists_load_iff.mp authorizable⟩
  · rintro ⟨notBlank, notBare, startsWell⟩
    have schemed := hasScheme_of_accepted urlAccepted notBlank
    exact ⟨fun _ => hasScheme_trimSlashes_iff.mpr ⟨schemed, notBare⟩,
      Token.exists_load_iff.mpr startsWell⟩

/-- Settings for a server of one's own, with blanks where they do no harm. -/
theorem own_server_usable :
    let settings : Settings :=
      { store := { connectUrl := "https://vault.internal:8443/ ", tokenStart := some "ops_ " } }
    check settings = .ok settings ∧ Usable settings.store := by
  intro settings
  have accepted : check settings = .ok settings := check_eq_ok_iff.mpr (by decide)
  refine ⟨accepted, (usable_iff_of_accepted accepted).mpr ⟨by decide, by decide, ?_⟩⟩
  rintro _ ⟨⟩
  decide

/-- A no-break space before the URL and a space before the start asked of tokens are accepted, but
no client has a URL with a scheme and no token is found. -/
theorem blanks_accepted_unusable :
    let settings : Settings :=
      { store := { connectUrl := "\u00a0http://127.0.0.1:8080", tokenStart := some " ops_" } }
    check settings = .ok settings ∧
      (∀ token, hasScheme (Client.ofUrl settings.store.connectUrl token
        settings.store.timeout).baseUrl = false) ∧
      ∀ files path token, Token.load files path settings.store.tokenStart ≠ .ok token := by
  intro settings
  refine ⟨check_eq_ok_iff.mpr (by decide), fun _ => ?_, fun files path token found => ?_⟩
  · change hasScheme (trimSlashes settings.store.connectUrl) = false
    decide
  · exact Bool.noConfusion (Token.startsBlank_of_load found)

end SecretRefs.Connect
