import IssueBoard.Proofs.Config.Loading
import IssueBoard.Proofs.Number.Magnitude
import IssueBoard.Proofs.Text.Blanks
import IssueBoard.Service.Settings
import Mathlib.Data.Rat.Floor

/-! # What settings become

Every option of a client comes from one of the two names of its setting, or from the default. An address is
looked at before it is trimmed, and a time limit before its fraction is dropped, so an address of slashes and
a limit below a millisecond pass, and what is left of them is empty and zero. The options are in order exactly
if the settings hold nothing of this kind. Options in order whose name for the client is a text, and no others,
are given by the settings that are made from them.
-/

namespace IssueBoard.Service

open Text (IsTrimmed TrimsTo isBlank)

variable {url tidy tidy' : String}

/-! ## Addresses -/

/-- Whether an address has a character, neither begins nor ends with a blank and does not end with a
slash. -/
structure IsClean (url : String) : Prop where
  nonempty : url ≠ ""
  trimmed : IsTrimmed url.toList
  unslashed : ∀ c ∈ url.toList.getLast?, c ≠ '/'

/-- Whether an address is another one, which does not end with a slash, with slashes behind it and blanks
around both. -/
def TidiesTo (url tidy : String) : Prop :=
  ∃ slashes, (∀ c ∈ slashes, c = '/') ∧ TrimsTo url.toList (tidy.toList ++ slashes) ∧
    ∀ c ∈ tidy.toList.getLast?, c ≠ '/'

/-- Whether an address has a character, neither a slash nor a blank, that only slashes follow and blanks
behind these. -/
def HasPlainEnd (url : String) : Prop :=
  ∃ front last slashes blanks, url.toList = front ++ last :: (slashes ++ blanks) ∧
    last ≠ '/' ∧ isBlank last = false ∧ (∀ c ∈ slashes, c = '/') ∧ ∀ c ∈ blanks, isBlank c = true

theorem toList_trimmedUrl (url : String) : (Settings.trimmedUrl url).toList =
    Text.dropTrailing (· == '/') (Text.trimBlank url.toList) := by
  rw [Settings.trimmedUrl, Query.withoutTrailingSlashes, String.toList_ofList, Text.trim,
    String.toList_ofList]

/-- Trimming an address takes off blanks at both ends and then slashes at the end. -/
theorem trimmedUrl_eq_iff : Settings.trimmedUrl url = tidy ↔ TidiesTo url tidy := by
  constructor
  · rintro rfl
    obtain ⟨slashes, all, split⟩ := Text.exists_dropTrailing (· == '/') (Text.trimBlank url.toList)
    refine ⟨slashes, fun c member => eq_of_beq (all c member), ?_, ?_⟩
    · rw [toList_trimmedUrl, ← split]
      exact Text.trimsTo_trimBlank url.toList
    · intro c last
      rw [toList_trimmedUrl] at last
      exact beq_eq_false_iff_ne.mp (Text.getLast?_dropTrailing (· == '/') _ c last)
  · rintro ⟨slashes, all, trims, last⟩
    apply String.toList_injective
    rw [toList_trimmedUrl, trims.trimBlank_eq]
    exact Text.dropTrailing_append (fun c member => beq_iff_eq.mpr (all c member))
      (fun c member => beq_eq_false_iff_ne.mpr (last c member))

theorem TidiesTo.unique (trims : TidiesTo url tidy) (trims' : TidiesTo url tidy') : tidy = tidy' := by
  rw [← trimmedUrl_eq_iff.mpr trims, ← trimmedUrl_eq_iff.mpr trims']

/-- What is clean is left alone, and apart from nothing at all only that is. -/
theorem isClean_iff : IsClean url ↔ url ≠ "" ∧ TidiesTo url url := by
  constructor
  · rintro ⟨nonempty, trimmed, unslashed⟩
    refine ⟨nonempty, [], List.forall_mem_nil _, ?_, unslashed⟩
    rw [List.append_nil]
    exact ⟨trimmed, [], [], List.forall_mem_nil _, List.forall_mem_nil _, (List.append_nil _).symm⟩
  · rintro ⟨nonempty, slashes, -, ⟨trimmed, before, after, -, -, split⟩, unslashed⟩
    have length := congrArg List.length split
    simp only [List.length_append] at length
    have none : slashes = [] := List.eq_nil_of_length_eq_zero (by omega)
    rw [none, List.append_nil] at trimmed
    exact ⟨nonempty, trimmed, unslashed⟩

/-- An address that is clean has a character that is no blank. -/
theorem IsClean.exists_visible (clean : IsClean url) : ∃ c ∈ url.toList, isBlank c = false := by
  cases cs : url.toList with
  | nil => exact absurd (String.toList_eq_nil_iff.mp cs) clean.nonempty
  | cons c rest =>
    refine ⟨c, List.mem_cons_self, clean.trimmed.first c ?_⟩
    rw [cs]
    rfl

theorem isClean_of_append {front : List Char} {last : Char}
    (ends : url.toList = Text.dropBlank front ++ [last]) (slash : last ≠ '/') (plain : isBlank last = false) :
    IsClean url := by
  have final (c : Char) (there : c ∈ url.toList.getLast?) : c = last := by
    rw [ends, List.getLast?_concat] at there
    exact (Option.some.inj there).symm
  refine ⟨?_, ⟨?_, fun c there => final c there ▸ plain⟩, fun c there => final c there ▸ slash⟩
  · rintro rfl
    exact List.append_ne_nil_of_right_ne_nil _ (List.cons_ne_nil _ _) ends.symm
  · rw [ends]
    exact Text.head?_dropBlank_append front fun c first => Option.some.inj first ▸ plain

/-- Slashes behind a clean address are no blanks. -/
theorem IsClean.isTrimmed_append {slashes : List Char} (clean : IsClean url)
    (all : ∀ c ∈ slashes, c = '/') : IsTrimmed (url.toList ++ slashes) := by
  constructor
  · intro c first
    obtain ⟨d, rest, cs⟩ :=
      List.exists_cons_of_ne_nil fun nothing => clean.nonempty (String.toList_eq_nil_iff.mp nothing)
    refine clean.trimmed.first c ?_
    rw [cs] at first ⊢
    exact first
  · intro c last
    rw [List.getLast?_append] at last
    cases ends : slashes.getLast? with
    | none =>
      rw [ends] at last
      exact clean.trimmed.last c last
    | some d =>
      rw [ends] at last
      cases last
      rw [all c (List.mem_of_getLast? ends)]
      decide

/-- An address with a plain end is trimmed to a clean one. -/
theorem HasPlainEnd.exists_tidiesTo (plain : HasPlainEnd url) : ∃ tidy, TidiesTo url tidy ∧ IsClean tidy := by
  obtain ⟨front, last, slashes, blanks, split, slash, plain, all, blank⟩ := plain
  have ends := String.toList_ofList (l := Text.dropBlank front ++ [last])
  have clean := isClean_of_append ends slash plain
  refine ⟨_, ⟨slashes, all, ⟨clean.isTrimmed_append all, front.takeWhile isBlank, blanks, ?_, blank, ?_⟩,
    clean.unslashed⟩, clean⟩
  · exact fun c member => List.mem_takeWhile_imp member
  · rw [split, ends, Text.dropBlank, ← List.append_assoc, ← List.append_assoc,
      List.takeWhile_append_dropWhile]
    simp only [List.append_assoc, List.cons_append, List.nil_append]

/-- What is left of an address is clean exactly if the address has a plain end. -/
theorem TidiesTo.isClean_iff (trims : TidiesTo url tidy) : IsClean tidy ↔ HasPlainEnd url := by
  constructor
  · rintro ⟨nonempty, trimmed, unslashed⟩
    obtain ⟨slashes, all, ⟨-, before, after, -, blank, split⟩, -⟩ := trims
    rcases List.eq_nil_or_concat' tidy.toList with nothing | ⟨front, last, ends⟩
    · exact absurd (String.toList_eq_nil_iff.mp nothing) nonempty
    · have final : tidy.toList.getLast? = some last := by rw [ends, List.getLast?_concat]
      refine ⟨before ++ front, last, slashes, after, ?_, unslashed last final,
        trimmed.last last final, all, blank⟩
      rw [split, ends]
      simp only [List.append_assoc, List.cons_append, List.nil_append]
  · intro plain
    obtain ⟨rest, trims', clean⟩ := plain.exists_tidiesTo
    rwa [trims.unique trims']

/-- Whether the addresses are clean and the time limit is not zero or less. -/
structure Options.IsNormal (options : Options) : Prop where
  service : IsClean options.apiUrl
  timeout : 1 ≤ options.timeout
  website : ∀ url ∈ options.webUrl, IsClean url

/-! ## Choices -/

namespace Settings

variable {settings : Settings} {first : Option Data} {second : String} {default value value' : Data}

/-- What counts of a setting: what is given under its first name unless that is nothing, zero or empty; else
what is given under its second name, with the same exceptions; else the default. -/
inductive Counts (settings : Settings) (first : Option Data) (second : String) (default : Data) :
    Data → Prop
  | first {value : Data} (given : first = some value) (holds : value.isTrue = true) :
    Counts settings first second default value
  | second {value : Data} (void : ∀ v ∈ first, v.isTrue = false)
    (given : settings.extra.lookup second = some value) (holds : value.isTrue = true) :
    Counts settings first second default value
  | default (void : ∀ v ∈ first, v.isTrue = false)
    (void' : ∀ v ∈ settings.extra.lookup second, v.isTrue = false) :
    Counts settings first second default default

theorem choose_eq : settings.choose first second default =
    ((first.toList ++ (settings.extra.lookup second).toList).find? Data.isTrue).getD default := rfl

theorem find?_toList {choice : Option Data} : choice.toList.find? Data.isTrue = choice.filter Data.isTrue := by
  cases choice with
  | none => rfl
  | some v => rw [Option.toList_some, List.find?_singleton, Option.filter_some]

theorem filter_of_void {choice : Option Data} (void : ∀ v ∈ choice, v.isTrue = false) :
    choice.filter Data.isTrue = none :=
  Option.filter_eq_none_iff.mpr fun v member => Bool.eq_false_iff.mp (void v member)

theorem choose_eq_filter : settings.choose first second default =
    ((first.filter Data.isTrue).or ((settings.extra.lookup second).filter Data.isTrue)).getD default := by
  rw [choose_eq, List.find?_append, find?_toList, find?_toList]

/-- Just what counts is chosen. -/
theorem choose_eq_iff :
    settings.choose first second default = value ↔ settings.Counts first second default value := by
  rw [choose_eq_filter]
  constructor
  · rintro rfl
    cases given : first.filter Data.isTrue with
    | some v =>
      obtain ⟨given, holds⟩ := Option.filter_eq_some_iff.mp given
      exact .first given holds
    | none =>
      have void (v : Data) (member : v ∈ first) : v.isTrue = false :=
        Bool.eq_false_iff.mpr (Option.filter_eq_none_iff.mp given v member)
      cases given' : (settings.extra.lookup second).filter Data.isTrue with
      | some v =>
        obtain ⟨given', holds⟩ := Option.filter_eq_some_iff.mp given'
        exact .second void given' holds
      | none => exact .default void fun v member =>
          Bool.eq_false_iff.mpr (Option.filter_eq_none_iff.mp given' v member)
  · intro counts
    cases counts with
    | first given holds => rw [given, Option.filter_some_pos holds, Option.some_or, Option.getD_some]
    | second void given holds =>
      rw [filter_of_void void, given, Option.filter_some_pos holds, Option.none_or, Option.getD_some]
    | default void void' =>
      rw [filter_of_void void, filter_of_void void', Option.none_or, Option.getD_none]

theorem counts_choose : settings.Counts first second default (settings.choose first second default) :=
  choose_eq_iff.mp rfl

theorem Counts.unique (counts : settings.Counts first second default value)
    (counts' : settings.Counts first second default value') : value = value' := by
  rw [← choose_eq_iff.mpr counts, ← choose_eq_iff.mpr counts']

/-- Nothing that is absent, zero or empty counts, unless it is the default. -/
theorem Counts.isTrue (counts : settings.Counts first second default value) (holds : default.isTrue = true) :
    value.isTrue = true := by
  cases counts with
  | first _ holds => exact holds
  | second _ _ holds => exact holds
  | default => exact holds

/-! ## Time limits -/

/-- The number that a value is as a time limit; a truth value is one or zero. -/
inductive Measures : Data → Number → Prop
  | flag (b : Bool) : Measures (.flag b) (.integer (if b then 1 else 0))
  | integer (n : Int) : Measures (.integer n) (.integer n)
  | real (x : Binary64) : Measures (.real x) (.real x)

variable {limit : Number} {n : Int}

theorem Measures.timeLimit_eq (measures : Measures value limit) :
    timeLimit value = wholeLimit limit := by
  cases measures <;> rfl

theorem Measures.unique {limit' : Number} (measures : Measures value limit)
    (measures' : Measures value limit') : limit = limit' := by
  cases measures <;> cases measures' <;> rfl

theorem exists_measures_of_timeLimit (done : timeLimit value = .ok n) :
    ∃ limit, Measures value limit := by
  cases value with
  | atom a =>
    cases a with
    | flag b => exact ⟨_, .flag b⟩
    | integer n => exact ⟨_, .integer n⟩
    | real x => exact ⟨_, .real x⟩
    | null => cases done
    | text s => cases done
    | bytes content => cases done
    | foreign kind text literal => cases done
  | list items => cases done
  | object entries => cases done
  | set members => cases done
  | record kind fields => cases done

theorem wholeLimit_eq_ok_iff : wholeLimit limit = .ok n ↔
    limit.isFinite = true ∧ 0 < limit.toRat ∧ n = ⌊limit.toRat⌋ := by
  have zero : (Number.integer 0).toRat = 0 := Int.cast_zero
  constructor
  · intro done
    have finite : limit.isFinite = true := by
      rw [wholeLimit] at done
      split at done
      · cases done
      · cases done
      · exact Number.isFinite_of_truncate done
    rw [wholeLimit, Number.compare?_of_isFinite finite rfl, zero] at done
    rcases lt_trichotomy limit.toRat 0 with negative | nothing | positive
    · rw [if_pos negative] at done
      cases done
    · rw [if_neg nothing.not_lt, if_pos nothing] at done
      cases done
    · rw [if_neg positive.not_gt, if_neg positive.ne', Number.truncate_of_nonneg finite positive.le] at done
      exact ⟨finite, positive, (Except.ok.inj done).symm⟩
  · rintro ⟨finite, positive, rfl⟩
    rw [wholeLimit, Number.compare?_of_isFinite finite rfl, zero, if_neg positive.not_gt,
      if_neg positive.ne', Number.truncate_of_nonneg finite positive.le]

/-- A time limit is the whole part of a number above zero. -/
theorem timeLimit_eq_ok_iff : timeLimit value = .ok n ↔
    ∃ limit, Measures value limit ∧ limit.isFinite = true ∧ 0 < limit.toRat ∧ n = ⌊limit.toRat⌋ := by
  constructor
  · intro done
    obtain ⟨limit, measures⟩ := exists_measures_of_timeLimit done
    rw [measures.timeLimit_eq, wholeLimit_eq_ok_iff] at done
    exact ⟨limit, measures, done⟩
  · rintro ⟨limit, measures, more⟩
    rw [measures.timeLimit_eq]
    exact wholeLimit_eq_ok_iff.mpr more

/-! ## Settings and options -/

variable {options : Options}

/-- What counts as the address of the service. -/
def ServiceUrl (settings : Settings) : Data → Prop :=
  settings.Counts (settings.apiUrl.map .text) "apiUrl" (.text Query.defaultServiceUrl)

/-- What counts as the time limit. -/
def TimeLimit (settings : Settings) : Data → Prop :=
  settings.Counts (settings.timeout.map .integer) "timeoutMs" (.integer 30000)

/-- What counts as the name of the client. -/
def UserAgent (settings : Settings) : Data → Prop :=
  settings.Counts (settings.userAgent.map .text) "userAgent" (.text "issue-analytics")

/-- What counts as the address of the web site. -/
def WebUrl (settings : Settings) : Data → Prop :=
  settings.Counts (settings.webUrl.map .text) "webUrl" .null

/-- Where the options of a client come from: addresses from texts, trimmed, of which that of the service is
not blank; the time limit from a number above zero, of which it is the whole part; the token, if it is not
empty, and the client's name as they are. -/
structure Gives (settings : Settings) (options : Options) : Prop where
  service : ∃ url, settings.ServiceUrl (.text url) ∧ (∃ c ∈ url.toList, isBlank c = false) ∧
    TidiesTo url options.apiUrl
  token : ∀ token, options.token = some token ↔ settings.token = some token ∧ token ≠ ""
  timeout : ∃ value limit, settings.TimeLimit value ∧ Measures value limit ∧ limit.isFinite = true ∧
    0 < limit.toRat ∧ options.timeout = ⌊limit.toRat⌋
  userAgent : settings.UserAgent options.userAgent
  website : (settings.WebUrl .null ∧ options.webUrl = none) ∨
    ∃ url tidy, settings.WebUrl (.text url) ∧ TidiesTo url tidy ∧ options.webUrl = some tidy

theorem serviceUrl_eq_ok_iff {tidy : String} : serviceUrl value = .ok tidy ↔
    ∃ url, value = .text url ∧ (∃ c ∈ url.toList, isBlank c = false) ∧ TidiesTo url tidy := by
  have visible (url : String) : Text.isBlankText url = false ↔ ∃ c ∈ url.toList, isBlank c = false := by
    rw [Text.isBlankText, List.all_eq_false]
    simp only [Bool.not_eq_true]
  constructor
  · intro done
    unfold serviceUrl at done
    split at done
    · next url =>
      split at done
      · cases done
      · next shown =>
        rw [Bool.not_eq_true, visible] at shown
        exact ⟨url, rfl, shown, trimmedUrl_eq_iff.mp (Except.ok.inj done)⟩
    · cases done
  · rintro ⟨url, rfl, shown, tidies⟩
    rw [← visible] at shown
    rw [serviceUrl, if_neg (Bool.not_eq_true _ ▸ shown), trimmedUrl_eq_iff.mpr tidies]
    rfl

theorem site_eq_ok_iff {found : Option String} : site value = .ok found ↔
    (value = .null ∧ found = none) ∨
      ∃ url tidy, value = .text url ∧ TidiesTo url tidy ∧ found = some tidy := by
  constructor
  · intro done
    unfold site at done
    split at done
    · exact .inl ⟨rfl, (Except.ok.inj done).symm⟩
    · next url => exact .inr ⟨url, _, rfl, trimmedUrl_eq_iff.mp rfl, (Except.ok.inj done).symm⟩
    · cases done
  · rintro (⟨rfl, rfl⟩ | ⟨url, tidy, rfl, tidies, rfl⟩)
    · rfl
    · rw [site, trimmedUrl_eq_iff.mpr tidies]
      rfl

/-- The options that settings give are just those that come from them. -/
theorem options_eq_ok_iff : settings.options = .ok options ↔ settings.Gives options := by
  have token (found : Option String) : found = settings.token.filter (!·.isEmpty) ↔
      ∀ token, found = some token ↔ settings.token = some token ∧ token ≠ "" := by
    rw [Option.ext_iff]
    simp only [Option.filter_eq_some_iff, Bool.not_eq_true', String.isEmpty_eq_false_iff]
  simp only [Settings.options, bind_eq_ok_iff, pure_eq_ok_iff, serviceUrl_eq_ok_iff, timeLimit_eq_ok_iff,
    site_eq_ok_iff, choose_eq_iff]
  constructor
  · rintro ⟨_, service, _, ⟨limit, measures, more⟩, _, website, rfl⟩
    exact ⟨service, (token _).mp rfl, ⟨_, limit, counts_choose, measures, more⟩, counts_choose, website⟩
  · rintro ⟨service, held, ⟨value, limit, counts, measures, more⟩, agent, website⟩
    rw [← choose_eq_iff.mpr counts] at measures
    refine ⟨_, service, _, ⟨limit, measures, more⟩, _, website, ?_⟩
    rw [← (token _).mpr held, choose_eq_iff.mpr agent]

/-! ## Options in order -/

/-- Whether the addresses that count have a plain character in front of the slashes and blanks at their ends,
and the time limit that counts is one or more. -/
structure IsSound (settings : Settings) : Prop where
  service : ∀ url, settings.ServiceUrl (.text url) → HasPlainEnd url
  timeout : ∀ value limit, settings.TimeLimit value → Measures value limit → 1 ≤ limit.toRat
  website : ∀ url, settings.WebUrl (.text url) → HasPlainEnd url

theorem Gives.isNormal_iff (gives : settings.Gives options) : options.IsNormal ↔ settings.IsSound := by
  obtain ⟨⟨url, service, -, tidies⟩, -, ⟨value, limit, counts, measures, -, -, whole⟩, -, website⟩ := gives
  constructor
  · rintro ⟨clean, positive, clean'⟩
    -- Only one value counts of each setting, and it is the one that the option comes from.
    refine ⟨?_, ?_, ?_⟩
    · rintro url' service'
      cases service.unique service'
      exact tidies.isClean_iff.mp clean
    · rintro value' limit' counts' measures'
      cases counts.unique counts'
      cases measures.unique measures'
      rwa [whole, Int.le_floor, Int.cast_one] at positive
    · rintro url' website'
      rcases website with ⟨none, -⟩ | ⟨url, tidy, given, tidies', found⟩
      · cases none.unique website'
      · cases given.unique website'
        exact tidies'.isClean_iff.mp (clean' tidy found)
  · rintro ⟨sound, large, sound'⟩
    refine ⟨tidies.isClean_iff.mpr (sound url service), ?_, ?_⟩
    · rw [whole, Int.le_floor, Int.cast_one]
      exact large value limit counts measures
    · intro url' found'
      rcases website with ⟨-, found⟩ | ⟨url, tidy, given, tidies', found⟩
      · cases found.symm.trans found'
      · cases found.symm.trans found'
        exact tidies'.isClean_iff.mpr (sound' url given)

end Settings

/-! ## Settings made from options -/

variable {options : Options} {settings : Settings}

/-- A text, or null if there is none. -/
def orNull (found : Option String) : Data := (found.map .text).getD .null

/-- The options under the names of the settings with underscores. -/
def Options.values (options : Options) : List (String × Data) :=
  [("api_url", .text options.apiUrl), ("token", orNull options.token),
    ("timeout_ms", .integer options.timeout), ("user_agent", options.userAgent),
    ("web_url", orNull options.webUrl)]

/-- The same options as entries of an object. -/
def Options.entries (options : Options) : Config.Options :=
  options.values.map fun (name, value) => (.text name, value)

/-- The settings with the values of the options and a name of the client. -/
def Options.toSettings (options : Options) (name : Option String) : Settings where
  apiUrl := some options.apiUrl
  token := options.token
  timeout := some options.timeout
  userAgent := name
  webUrl := options.webUrl

theorem text_of_orNull {entries : Config.Options} {name : String} {found : Option String}
    (there : entries.find? name = some (orNull found)) : entries.text name = .ok found := by
  cases found with
  | none =>
    rw [Config.Options.text, Config.Options.optional, there]
    rfl
  | some s => exact Config.Options.text_of_find there

theorem find?_entries (name : String) : options.entries.find? name =
    if "api_url" = name then some (.text options.apiUrl)
    else if "token" = name then some (orNull options.token)
    else if "timeout_ms" = name then some (.integer options.timeout)
    else if "user_agent" = name then some options.userAgent
    else if "web_url" = name then some (orNull options.webUrl) else none := by
  simp only [Options.entries, Options.values, List.map_cons, Config.Options.find?_cons]
  rfl

/-- The named options of a client make settings if the client's name can be read. -/
theorem ofValues_values_eq_ok_iff : Settings.ofValues options.values = .ok settings ↔
    ∃ name, options.entries.text "user_agent" = .ok name ∧ options.toSettings name = settings := by
  have service : options.entries.text "api_url" = .ok (some options.apiUrl) :=
    Config.Options.text_of_find (by simp [find?_entries])
  have token : options.entries.text "token" = .ok options.token :=
    text_of_orNull (by simp [find?_entries])
  have timeout : options.entries.optional Config.readInteger "timeout_ms" = .ok (some options.timeout) :=
    Config.Options.optional_of_find (by simp [find?_entries]; rfl) rfl rfl
  have website : options.entries.text "web_url" = .ok options.webUrl :=
    text_of_orNull (by simp [find?_entries])
  have known : options.values.filter (fun (name, _) => !Settings.names.contains name) = [] := by
    simp [Options.values, Settings.names]
  dsimp only [Settings.ofValues]
  rw [mapError_eq_ok_iff, ← Options.entries, service, token, timeout, website, known]
  simp only [ok_bind, bind_eq_ok_iff, pure_eq_ok_iff]
  rfl

/-! ## Options given again -/

theorem isTrue_text {s : String} : (Data.text s).isTrue = true ↔ s ≠ "" := by
  rw [Data.isTrue, Bool.not_eq_true', String.isEmpty_eq_false_iff]

section Again

variable {name : Option String}

theorem gives_service_iff : (∃ url, (options.toSettings name).ServiceUrl (.text url) ∧
    (∃ c ∈ url.toList, isBlank c = false) ∧ TidiesTo url options.apiUrl) ↔ IsClean options.apiUrl := by
  constructor
  · rintro ⟨url, service, -, tidies⟩
    cases service with
    | first given holds =>
      cases given
      exact isClean_iff.mpr ⟨isTrue_text.mp holds, tidies⟩
    | second _ never => cases never
    | default void =>
      -- An empty address would give the default, and that is not trimmed to nothing.
      have empty : options.apiUrl = "" := by
        by_contra nonempty
        exact absurd (void _ rfl) (Bool.not_eq_false _ ▸ isTrue_text.mpr nonempty)
      rw [empty] at tidies
      exact absurd (trimmedUrl_eq_iff.mpr tidies) (by decide +kernel)
  · intro clean
    obtain ⟨shown, tidies⟩ := isClean_iff.mp clean
    exact ⟨options.apiUrl, .first rfl (isTrue_text.mpr shown), clean.exists_visible, tidies⟩

theorem gives_timeout_iff : (∃ value limit, (options.toSettings name).TimeLimit value ∧
    Settings.Measures value limit ∧ limit.isFinite = true ∧ 0 < limit.toRat ∧
    options.timeout = ⌊limit.toRat⌋) ↔ 1 ≤ options.timeout := by
  constructor
  · rintro ⟨value, limit, counts, measures, -, positive, whole⟩
    -- The limit or the default counts. Both are integers, so no fraction is dropped.
    have integral : ∃ k, value = .integer k := by
      cases counts with
      | first given => exact ⟨_, (Option.some.inj given).symm⟩
      | second _ never => cases never
      | default => exact ⟨_, rfl⟩
    obtain ⟨k, rfl⟩ := integral
    cases measures
    rw [whole, Number.toRat, Int.floor_intCast]
    exact Int.cast_pos.mp positive
  · intro positive
    refine ⟨_, _, .first rfl (bne_iff_ne.mpr ?_), .integer options.timeout, rfl, ?_, ?_⟩
    · omega
    · exact Int.cast_pos.mpr positive
    · exact (Int.floor_intCast _).symm

theorem gives_website_iff : ((options.toSettings name).WebUrl .null ∧ options.webUrl = none ∨
    ∃ url tidy, (options.toSettings name).WebUrl (.text url) ∧ TidiesTo url tidy ∧
      options.webUrl = some tidy) ↔ ∀ url ∈ options.webUrl, IsClean url := by
  rw [Settings.WebUrl, Options.toSettings]
  cases options.webUrl with
  | none =>
    refine iff_of_true (.inl ⟨.default ?_ ?_, rfl⟩) ?_
    all_goals
      intro v never
      cases never
  | some site =>
    constructor
    · rintro (⟨-, never⟩ | ⟨url, tidy, given, tidies, same⟩) url' found
      · cases never
      · cases same
        cases found
        cases given with
        | first given holds =>
          cases given
          exact isClean_iff.mpr ⟨isTrue_text.mp holds, tidies⟩
        | second _ never => cases never
    · intro clean
      obtain ⟨shown, tidies⟩ := isClean_iff.mp (clean site rfl)
      exact .inr ⟨site, site, .first rfl (isTrue_text.mpr shown), tidies, rfl⟩

/-- Options come from settings with their own values exactly if they are in order, the token is not empty and
the client's name comes from the settings. -/
theorem gives_toSettings_iff : (options.toSettings name).Gives options ↔
    options.IsNormal ∧ options.token ≠ some "" ∧ (options.toSettings name).UserAgent options.userAgent := by
  constructor
  · rintro ⟨service, token, timeout, agent, website⟩
    have normal : options.IsNormal :=
      ⟨gives_service_iff.mp service, gives_timeout_iff.mp timeout, gives_website_iff.mp website⟩
    exact ⟨normal, fun empty => ((token "").mp empty).2 rfl, agent⟩
  · rintro ⟨⟨clean, positive, clean'⟩, nonempty, agent⟩
    refine ⟨gives_service_iff.mpr clean, ?_, gives_timeout_iff.mpr positive, agent,
      gives_website_iff.mpr clean'⟩
    intro token
    refine ⟨fun found => ⟨found, ?_⟩, And.left⟩
    rintro rfl
    exact nonempty found

end Again

/-- Settings made from options give these again exactly if they are in order, the token is not empty and the
client's name is a text with characters. -/
theorem options_ofValues_iff : (Settings.ofValues options.values >>= Settings.options) = .ok options ↔
    options.IsNormal ∧ options.token ≠ some "" ∧ ∃ name, options.userAgent = .text name ∧ name ≠ "" := by
  simp only [bind_eq_ok_iff, ofValues_values_eq_ok_iff, Settings.options_eq_ok_iff]
  constructor
  · rintro ⟨_, ⟨name, -, rfl⟩, gives⟩
    obtain ⟨normal, token, agent⟩ := gives_toSettings_iff.mp gives
    refine ⟨normal, token, ?_⟩
    generalize options.userAgent = userAgent at agent
    cases agent with
    | first given holds =>
      obtain ⟨name, -, rfl⟩ := Option.map_eq_some_iff.mp given
      exact ⟨name, rfl, isTrue_text.mp holds⟩
    | second _ never => cases never
    | default => exact ⟨_, rfl, by decide⟩
  · rintro ⟨normal, token, name, text, shown⟩
    have read : options.entries.text "user_agent" = .ok (some name) :=
      Config.Options.text_of_find (by simp [find?_entries, text])
    refine ⟨_, ⟨some name, read, rfl⟩, gives_toSettings_iff.mpr ⟨normal, token, ?_⟩⟩
    exact .first (congrArg some text.symm) (text ▸ isTrue_text.mpr shown)

/-- **Options of a client.** Where settings give options, each of these comes from the setting of its name with
underscores unless that is not given or empty, else from the one of its name with capitals, else from the
default; addresses are trimmed and the fraction of a time limit is dropped. The address of the service is then
there and clean, the time limit one or more, and the address of the web site clean if it is there, exactly if
the addresses that counted have a plain character in front of the slashes and blanks at their ends and the time
limit that counted was one or more. Settings made from the options give the same options again exactly if they
are in order and the client's name is a text. -/
theorem options_isNormal_iff (done : settings.options = .ok options) :
    settings.Gives options ∧ (options.IsNormal ↔ settings.IsSound) ∧
      ((Settings.ofValues options.values >>= Settings.options) = .ok options ↔
        options.IsNormal ∧ ∃ name, options.userAgent = .text name) := by
  have gives := Settings.options_eq_ok_iff.mp done
  refine ⟨gives, gives.isNormal_iff, options_ofValues_iff.trans ?_⟩
  constructor
  · rintro ⟨normal, -, name, text, -⟩
    exact ⟨normal, name, text⟩
  · rintro ⟨normal, name, text⟩
    have named := gives.userAgent.isTrue (isTrue_text.mpr (by decide))
    rw [text, isTrue_text] at named
    exact ⟨normal, fun empty => ((gives.token "").mp empty).2 rfl, name, text, named⟩

/-- Settings under names with capitals, in an environment with an empty token. -/
theorem options_isNormal_camelCase :
    let settings : Settings := {
      token := some ""
      extra := [("apiUrl", .text " https://github.example.com/api/v3/ "), ("timeoutMs", .integer 500),
        ("userAgent", .text "dashboards")] }
    let options : Options :=
      { apiUrl := "https://github.example.com/api/v3", timeout := 500, userAgent := .text "dashboards" }
    settings.options = .ok options ∧ options.IsNormal ∧
      (Settings.ofValues options.values >>= Settings.options) = .ok options := by
  intro settings options
  have done : settings.options = .ok options := rfl
  obtain ⟨-, -, again⟩ := options_isNormal_iff done
  have ends : options.apiUrl.toList =
      Text.dropBlank "https://github.example.com/api/v".toList ++ ['3'] := by decide +kernel
  have normal : options.IsNormal := ⟨isClean_of_append ends (by decide) (by decide), by decide, nofun⟩
  exact ⟨done, normal, again.mpr ⟨normal, _, rfl⟩⟩

/-- Addresses of slashes and half a millisecond. -/
theorem not_isNormal_slash :
    let settings : Settings := {
      apiUrl := some "/"
      webUrl := some "/"
      extra := [("timeoutMs", .real (.round (1 / 2)))] }
    let options : Options := { apiUrl := "", timeout := 0, webUrl := some "" }
    settings.options = .ok options ∧ ¬ options.IsNormal ∧
      (Settings.ofValues options.values >>= Settings.options) ≠ .ok options := by
  intro settings options
  have abnormal : ¬ options.IsNormal := fun normal => normal.service.nonempty rfl
  have gives : settings.Gives options := by
    refine ⟨⟨"/", .first rfl rfl, ⟨'/', by decide, by decide⟩, trimmedUrl_eq_iff.mp (by decide +kernel)⟩,
      fun token => ⟨nofun, And.left⟩, ?_, .default nofun nofun,
      .inr ⟨"/", "", .first rfl rfl, trimmedUrl_eq_iff.mp (by decide +kernel), rfl⟩⟩
    exact ⟨_, _, .second nofun rfl (by decide +kernel), .real (.round (1 / 2)), by decide +kernel,
      by decide +kernel, by decide +kernel⟩
  refine ⟨Settings.options_eq_ok_iff.mpr gives, abnormal, ?_⟩
  rw [ne_eq, options_ofValues_iff]
  exact fun again => abnormal again.1

end IssueBoard.Service
