import DisclosureRelay.Proofs.Return.Course
import DisclosureRelay.Proofs.Settings.Load

/-!
# Settings of a file

`Safe` says of settings what the check of a loaded file asks for. `load_eq_ok` says which settings
come out of which files, `stands_print` that printed settings come out again, and `times_of_safe`
when a return with safe settings submits its form and when it tells the page that it failed.
`settings_of_file` puts these together.
-/

namespace DisclosureRelay.Settings

open Json

/-- Settings with which a form is submitted neither too early nor after the fallback. -/
structure Safe (settings : Settings) : Prop where
  submit : 2000 ≤ settings.submitDelayMs
  fallback : 10000 ≤ settings.fallbackTimeoutMs
  ordered : settings.submitDelayMs < settings.fallbackTimeoutMs
  http : 1 ≤ settings.httpTimeoutSecs

/-- The numbers of settings have 64 bits. -/
structure Sized (settings : Settings) : Prop where
  submit : settings.submitDelayMs < Nat.pow 2 64
  fallback : settings.fallbackTimeoutMs < Nat.pow 2 64
  http : settings.httpTimeoutSecs < Nat.pow 2 64

variable {settings : Settings} {raw : String} {tree : Tree}

lemma fault?_eq_none_iff : settings.fault? = none ↔ settings.Safe := by
  unfold fault? leastSubmitDelayMs leastFallbackTimeoutMs
  constructor
  · intro none
    constructor <;> grind
  · rintro ⟨submit, fallback, ordered, http⟩
    rw [if_neg (by omega), if_neg (by omega), if_neg (by omega), if_neg (by omega)]

/-- Settings are read from a text exactly if it spells them and they are safe. -/
theorem parse_eq_ok :
    parse raw = .ok settings ↔
      (∃ tree, SpellsWhole raw.toList tree ∧ Stands tree settings) ∧ settings.Safe := by
  have read : Json.parse (read depthLimit) raw = .ok settings ↔
      ∃ tree, SpellsWhole raw.toList tree ∧ Stands tree settings := by
    constructor
    · intro read
      obtain ⟨front, piece, back, eq, blanks, ⟨tree, spells, stands⟩, blanks'⟩ :=
        (read_sound depthLimit).parse read
      exact ⟨tree, eq ▸ .blanks blanks spells blanks', stands⟩
    · rintro ⟨tree, whole, stands⟩
      generalize eq : raw.toList = s at whole
      obtain ⟨blanks, spells, blanks'⟩ := whole
      exact (read_complete 126).parse eq blanks ⟨tree, spells, stands⟩ blanks'
  rw [← read, ← fault?_eq_none_iff, parse]
  cases Json.parse (Settings.read depthLimit) raw with
  | error fault => simp
  | ok held =>
    dsimp only
    cases faults : held.fault? with
    | none =>
      simp only [Except.ok.injEq]
      exact ⟨fun same => ⟨same, same ▸ faults⟩, And.left⟩
    | some fault =>
      simp only [reduceCtorEq, Except.ok.injEq, false_iff, not_and]
      rintro rfl safe
      simp [safe] at faults

lemma fromUTF8?_eq_some {bytes : ByteArray} :
    String.fromUTF8? bytes = some raw ↔ bytes = raw.toUTF8 := by
  unfold String.fromUTF8?
  split
  · rw [Option.some.injEq]
    constructor
    · rintro rfl
      rfl
    · rintro rfl
      rfl
  · next invalid =>
    simp only [reduceCtorEq, false_iff]
    rintro rfl
    exact invalid raw.isValidUTF8

/-- Settings are loaded from a file exactly if it holds a text of them and they are safe. -/
theorem load_eq_ok {file : FileRead} :
    load file = .ok settings ↔
      (∃ (raw : String) (tree : Tree), file = .ok raw.toUTF8 ∧ SpellsWhole raw.toList tree ∧
        Stands tree settings) ∧ settings.Safe := by
  constructor
  · intro loaded
    obtain reason | bytes := file
    · cases loaded
    · dsimp only [load] at loaded
      split at loaded
      · cases loaded
      · next raw valid =>
        obtain rfl := fromUTF8?_eq_some.1 valid
        obtain ⟨⟨tree, whole, stands⟩, safe⟩ := parse_eq_ok.1 loaded
        exact ⟨⟨raw, tree, rfl, whole, stands⟩, safe⟩
  · rintro ⟨⟨raw, tree, rfl, whole, stands⟩, safe⟩
    have valid : String.fromUTF8? raw.toUTF8 = some raw := fromUTF8?_eq_some.2 rfl
    simp only [load, valid]
    exact parse_eq_ok.2 ⟨⟨tree, whole, stands⟩, safe⟩

/-! ## Printed settings -/

lemma natural_of_holds {value : Nat} (holds : tree.Holds (.natural value)) :
    tree.IsNatural value := by
  cases holds with
  | number value? => exact Numeral.number_eq_natural.1 value?

lemma text_of_holds {text : String} (holds : tree.Holds (.text text)) : tree = .text text := by
  cases holds with
  | text => rfl

/-- A count of 64 bits is spelled by what is printed for it. -/
lemma spelled_natural {value : Nat} (inside : value < Nat.pow 2 64) :
    Spelled (HoldsWithin 0) (Json.natural value).chars (.natural value) := by
  have powers : Int.pow 2 63 = (Nat.pow 2 63 : Nat) ∧ Int.pow 2 64 = (Nat.pow 2 64 : Nat) :=
    ⟨rfl, rfl⟩
  have exact : Number.Exact value := by constructor <;> omega
  exact spelled_chars trivial exact (Nat.le_refl _)

/-- All members of settings. -/
def draft (settings : Settings) : Draft where
  submitDelayMs := some settings.submitDelayMs
  fallbackTimeoutMs := some settings.fallbackTimeoutMs
  httpTimeoutSecs := some settings.httpTimeoutSecs
  supportContact := some settings.supportContact

/-- Settings stand in the text that is printed for them. -/
lemma stands_print (sized : settings.Sized) :
    ∃ tree, SpellsWhole settings.json.print.toList tree ∧ Stands tree settings := by
  obtain ⟨submit, fallback, http⟩ := sized
  have said : ∀ member ∈ [("submit_delay_ms", Json.natural settings.submitDelayMs),
      ("fallback_timeout_ms", .natural settings.fallbackTimeoutMs),
      ("http_timeout_secs", .natural settings.httpTimeoutSecs),
      ("support_contact", .text settings.supportContact)],
      Spelled (HoldsWithin 0) member.2.chars member.2 := by
    simp only [List.forall_mem_cons]
    exact ⟨spelled_natural submit, spelled_natural fallback, spelled_natural http,
      spelled_chars trivial trivial (Nat.le_refl _), fun _ => nofun⟩
  obtain ⟨trees, spells, keeps⟩ := spelled_object said
  have whole := SpellsWhole.blanks blanks_nil spells blanks_nil
  rw [List.append_nil, List.nil_append] at whole
  have taken : Gathers Draft.TakesOnce {} trees settings.draft := by
    obtain _ | ⟨⟨submitName, submit, -⟩, _ | ⟨⟨fallbackName, fallback, -⟩,
      _ | ⟨⟨httpName, http, -⟩, _ | ⟨⟨contactName, contact, -⟩, ⟨⟩⟩⟩⟩⟩ := keeps
    exact .cons ⟨.submitDelayMs, submitName.symm, rfl, _, natural_of_holds submit, rfl⟩ <|
      .cons ⟨.fallbackTimeoutMs, fallbackName.symm, rfl, _, natural_of_holds fallback, rfl⟩ <|
      .cons ⟨.httpTimeoutSecs, httpName.symm, rfl, _, natural_of_holds http, rfl⟩ <|
      .cons ⟨.supportContact, contactName.symm, rfl, _, text_of_holds contact, rfl⟩ .nil
  refine ⟨.object trees, ?_, settings.draft, means_object.2 taken, rfl⟩
  rwa [Json.print, String.toList_ofList]

/-! ## The times of a return -/

/-- An attempt of safe settings submits its form before the page is told that returning failed, and
neither comes too early. -/
lemma times_of_safe (safe : settings.Safe) (s : Return.Schedule) (assertion : Assertion)
    (events : List Return.Schedule.Event) :
    let id := s.attempts.length
    let did := ((s.step (.arm assertion settings)).1.run events).2
    (∀ submission ∈ Return.Schedule.submissions id did,
      s.now + 2000 ≤ submission.1 ∧ submission.1 < s.now + settings.fallbackTimeoutMs) ∧
    ∀ late ∈ Return.Schedule.warnings id did, s.now + 10000 ≤ late ∧
      ∃ early < late, Return.Schedule.submissions id did =
        [(early, Return.Form.ofAssertion assertion)] := by
  intro id did
  obtain ⟨least, leastFallback, ordered, -⟩ := safe
  have found : (s.step (.arm assertion settings)).1.attempts[id]? =
      some (Return.Attempt.arm assertion settings s.now) := List.getElem?_concat_length
  obtain ⟨attempt, course⟩ := Return.Schedule.course_run found rfl rfl (Nat.le_add_right ..)
    (Nat.le_add_right ..) events
  constructor
  · intro submission mem
    obtain once | none := course.submits.submitted_or
    · obtain rfl := List.mem_singleton.1 (once ▸ mem)
      exact ⟨Nat.add_le_add_left least _, Nat.add_lt_add_left ordered _⟩
    · exact absurd (none ▸ mem) List.not_mem_nil
  · intro late mem
    have submitted := course.submitted_of_warned (Nat.add_lt_add_left ordered _)
      (List.ne_nil_of_mem mem)
    obtain ⟨told, -⟩ | ⟨silent, -⟩ := course.warns.warned_or
    · obtain rfl := List.mem_singleton.1 (told ▸ mem)
      exact ⟨Nat.add_le_add_left leastFallback _, _, Nat.add_lt_add_left ordered _, submitted⟩
    · exact absurd (silent ▸ mem) List.not_mem_nil

/-- Which settings come out of a file, and what they mean for a return: the file holds a text of an
object of known members, none repeated and in any order, or of a list of values, the settings are
what these give and safe, and printed ones come out again. A return that is armed with them submits
its form neither too early nor after the page is told that returning failed. -/
theorem settings_of_file :
    (∀ (file : FileRead) (settings : Settings), load file = .ok settings ↔
      (∃ (raw : String) (tree : Tree), file = .ok raw.toUTF8 ∧ SpellsWhole raw.toList tree ∧
        Stands tree settings) ∧ settings.Safe) ∧
    (∀ (members others : List (String × Tree)) (settings : Settings) (raw : String),
      Stands (.object members) settings → settings.Safe → members.Perm others →
      SpellsWhole raw.toList (.object others) → load (.ok raw.toUTF8) = .ok settings) ∧
    (∀ settings : Settings, settings.Sized → settings.Safe →
      load (.ok settings.json.print.toUTF8) = .ok settings) ∧
    (∀ (file : FileRead) (settings : Settings) (s : Return.Schedule) (assertion : Assertion)
      (events : List Return.Schedule.Event), load file = .ok settings →
      let id := s.attempts.length
      let did := ((s.step (.arm assertion settings)).1.run events).2
      (∀ submission ∈ Return.Schedule.submissions id did,
        s.now + 2000 ≤ submission.1 ∧ submission.1 < s.now + settings.fallbackTimeoutMs) ∧
      ∀ late ∈ Return.Schedule.warnings id did, s.now + 10000 ≤ late ∧
        ∃ early < late, Return.Schedule.submissions id did =
          [(early, Return.Form.ofAssertion assertion)]) := by
  refine ⟨fun file settings => load_eq_ok, ?_, ?_, ?_⟩
  · rintro members others settings raw ⟨draft, means, same⟩ safe perm whole
    exact load_eq_ok.2 ⟨⟨raw, .object others, rfl, whole, draft, means.perm perm, same⟩, safe⟩
  · intro settings sized safe
    obtain ⟨tree, whole, stands⟩ := stands_print sized
    exact load_eq_ok.2 ⟨⟨settings.json.print, tree, rfl, whole, stands⟩, safe⟩
  · intro file settings s assertion events loaded
    exact times_of_safe (load_eq_ok.1 loaded).2 s assertion events

/-- A file that puts off the fallback leaves the other settings as they are. -/
theorem settings_of_file_of_late_fallback :
    let file : FileRead := .ok "\x7b\"fallback_timeout_ms\": 15000\x7d".toUTF8
    let settings : Settings := { fallbackTimeoutMs := 15000 }
    let assertion : Assertion := ⟨"http://sp/acs", "saml", none⟩
    let armed := (({} : Return.Schedule).step (.arm assertion settings)).1
    let events : List Return.Schedule.Event :=
      [.pass 2000, .due 0 .submit, .pass 13000, .due 0 .fallback]
    load file = .ok settings ∧ load (.ok settings.json.print.toUTF8) = .ok settings ∧
      15000 ∈ Return.Schedule.warnings 0 (armed.run events).2 ∧
      ∃ early < 15000, Return.Schedule.submissions 0 (armed.run events).2 =
        [(early, Return.Form.ofAssertion assertion)] := by
  intro file settings assertion armed events
  have loaded : load file = .ok settings := by decide +kernel
  have told : 15000 ∈ Return.Schedule.warnings 0 (armed.run events).2 := by decide
  obtain ⟨loads, -, printed, times⟩ := settings_of_file
  obtain ⟨-, safe⟩ := (loads file settings).1 loaded
  obtain ⟨-, late⟩ := times file settings {} assertion events loaded
  exact ⟨loaded, printed settings ⟨by decide, by decide, by decide⟩ safe, told, (late _ told).2⟩

end DisclosureRelay.Settings
