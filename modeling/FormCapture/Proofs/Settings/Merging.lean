import FormCapture.Settings.Basic
import FormCapture.Proofs.Number.Numeral
import Mathlib.Algebra.Group.Nat.Defs

/-! # Merged settings

A setting is looked up at one key of one section of the settings file (`Item`), and it is there if the value is of
the setting's type (`Item.Says`). The merged settings are said of these items and of the command line alone
(`Merged`), and there is one for every command line and file (`merged_iff`). They are run with just if they are
usable (`fault?_eq_none_iff`).

A value of the file counts only if the command line leaves the setting to it and the value is of the setting's
type (`Counts`). Two files whose values that count are the same have the same result, be it settings or an error.
Main statement: `ofSources_merges`. -/

namespace FormCapture

namespace Settings

/-! ### The items of a settings file -/

/-- A setting of the settings file: where it is assigned, and what the values of its type are read as. -/
structure Item (α : Type) where
  group : Text
  key : Text
  Reads : Text → α → Prop
  read? : Text → Option α
  read?_eq_some_iff : ∀ {value : Text} {v : α}, read? value = some v ↔ Reads value v

namespace Item

def text (group key : String) : Item Text where
  group := group.toList
  key := key.toList
  Reads value v := value = v
  read? := some
  read?_eq_some_iff := Option.some_inj

/-- A whole number of so many bits. -/
def number (group key : String) (bits : Nat) : Item Nat where
  group := group.toList
  key := key.toList
  Reads value n := Numeral.Denotes value n ∧ n < 2 ^ bits
  read? := Numeral.unsigned? (2 ^ bits - 1)
  read?_eq_some_iff := by
    intro value n
    rw [Numeral.unsigned?_eq_some_iff, Nat.le_sub_one_iff_lt (Nat.two_pow_pos bits)]

def size (group key : String) : Item Nat where
  group := group.toList
  key := key.toList
  Reads value n := Size.parse? value = some n
  read? := Size.parse?
  read?_eq_some_iff := Iff.rfl

/-- The words for a flag that is on, and those for one that is off. -/
def flagWords : Bool → List String
  | true => ["true", "yes", "1", "on"]
  | false => ["false", "no", "0", "off"]

def flagOf? (value : Text) : Option Bool :=
  let word := String.ofList value.lower
  if (flagWords true).contains word then some true
  else if (flagWords false).contains word then some false
  else none

theorem flagOf?_eq_some_iff {value : Text} {b : Bool} :
    flagOf? value = some b ↔ String.ofList value.lower ∈ flagWords b := by
  have hdisjoint : ∀ word ∈ flagWords false, word ∉ flagWords true := by decide
  unfold flagOf?
  simp only [List.contains_iff_mem]
  by_cases hon : String.ofList value.lower ∈ flagWords true
  · rw [if_pos hon]
    cases b with
    | true => simp [hon]
    | false => simpa using fun hoff => hdisjoint _ hoff hon
  · rw [if_neg hon]
    cases b with
    | true => simpa using hon
    | false => simp

/-- A flag, whose words are in any letter case. -/
def flag (group key : String) : Item Bool where
  group := group.toList
  key := key.toList
  Reads value b := String.ofList value.lower ∈ flagWords b
  read? := flagOf?
  read?_eq_some_iff := flagOf?_eq_some_iff

def listen : Item Text := text "server" "listen"
def port : Item Nat := number "server" "port" 16
def threads : Item Nat := number "server" "threads" 64
def waitTimeout : Item Nat := number "stream" "wait_timeout" 64
def maxBodySize : Item Nat := size "request" "max_body_size"
def maxHeaderSize : Item Nat := size "request" "max_header_size"
def verbose : Item Bool := flag "logging" "verbose"
def detailed : Item Bool := flag "logging" "detailed"

variable {α : Type} (i : Item α) {given : Option α} {default v : α} {ini ini' : Ini}

/-- The file has a value of the setting's type, and this is what it is read as. -/
def Says (ini : Ini) (v : α) : Prop := ∃ value, ini.text? i.group i.key = some value ∧ i.Reads value v

/-- The setting is the one that is given, else the one of the file, else the default. -/
def Chosen (given : Option α) (default : α) (ini : Ini) (v : α) : Prop :=
  given = some v ∨ given = none ∧ (i.Says ini v ∨ (∀ u, ¬ i.Says ini u) ∧ v = default)

/-- The setting of the file, if it has one. -/
def find? (ini : Ini) : Option α := (ini.text? i.group i.key).bind i.read?

theorem find?_eq_some_iff : i.find? ini = some v ↔ i.Says ini v := by
  unfold find? Says
  rw [Option.bind_eq_some_iff]
  simp only [i.read?_eq_some_iff]

theorem find?_eq_none_iff : i.find? ini = none ↔ ∀ v, ¬ i.Says ini v := by
  simp only [Option.eq_none_iff_forall_ne_some, ne_eq, find?_eq_some_iff]

/-- **What is chosen** is the first of the three that there is. -/
theorem chosen_iff : i.Chosen given default ini v ↔ v = (given <|> i.find? ini).getD default := by
  unfold Chosen
  rw [← find?_eq_none_iff, ← find?_eq_some_iff]
  cases given with
  | some g => simp [eq_comm]
  | none =>
    cases i.find? ini with
    | some u => simp [eq_comm]
    | none => simp

theorem flag_iff (i : Item Bool) {on b : Bool} :
    (b = true ↔ on = true ∨ i.Says ini true) ↔ b = (on || (i.find? ini).getD false) := by
  rw [← find?_eq_some_iff]
  cases on <;> cases b <;> rcases i.find? ini with _ | _ | _ <;> simp

/-- **A value that says nothing may be any other** that says nothing. -/
theorem find?_congr (h : (∃ v, i.Says ini v) ∨ (∃ v, i.Says ini' v) →
    ini'.text? i.group i.key = ini.text? i.group i.key) : i.find? ini' = i.find? ini := by
  by_cases hsaid : (∃ v, i.Says ini v) ∨ (∃ v, i.Says ini' v)
  · rw [find?, h hsaid, find?]
  · obtain ⟨hini, hini'⟩ := not_or.mp hsaid
    rw [i.find?_eq_none_iff.mpr (not_exists.mp hini), i.find?_eq_none_iff.mpr (not_exists.mp hini')]

theorem orElse_congr (h : given = none → i.find? ini' = i.find? ini) :
    (given <|> i.find? ini') = (given <|> i.find? ini) := by
  cases given with
  | some g => rfl
  | none => rw [h rfl]

theorem flag_congr (i : Item Bool) {on : Bool} (h : on = false → i.find? ini' = i.find? ini) :
    (on || (i.find? ini').getD false) = (on || (i.find? ini).getD false) := by
  cases on with
  | true => rfl
  | false => rw [h rfl]

end Item

/-! ### The merged settings -/

variable {o : Options} {ini ini' : Ini} {s : Settings}

/-- The settings are those of the command line, of the settings file and the defaults, in this order, and the
flags are on if either of the first two says so. -/
structure Merged (o : Options) (ini : Ini) (s : Settings) : Prop where
  listen : Item.listen.Chosen o.listen "127.0.0.1".toList ini s.listen
  port : Item.port.Chosen o.port 8080 ini s.port
  threads : Item.threads.Chosen o.threads 8 ini s.threads
  waitSeconds : Item.waitTimeout.Chosen o.waitTimeout 5 ini s.waitSeconds
  maxBodySize : Item.maxBodySize.Chosen (o.maxBodySize.map (· * 2 ^ 20)) (64 * 2 ^ 20) ini s.maxBodySize
  maxHeaderSize : Item.maxHeaderSize.Chosen none (8 * 2 ^ 10) ini s.maxHeaderSize
  verbose : s.verbose = true ↔ o.verbose = true ∨ Item.verbose.Says ini true
  detailed : s.detailed = true ↔ o.detailedLogging = true ∨ Item.detailed.Says ini true

/-- The settings make sense. -/
structure IsUsable (s : Settings) : Prop where
  threads : 1 ≤ s.threads
  waitSeconds : 1 ≤ s.waitSeconds
  maxBodySize : 1 ≤ s.maxBodySize
  maxHeaderSize : 16 ≤ s.maxHeaderSize

theorem bytesOfUnits_eq {n : Nat} (h : n ≤ 10240) : n * 2 ^ 20 < 2 ^ 64 ∧ bytesOfUnits n = n * 2 ^ 20 := by
  have hlt : n * 2 ^ 20 < 2 ^ 64 := by omega
  exact ⟨hlt, Nat.mod_eq_of_lt hlt⟩

/-- The settings that are made are said of the items of the file. -/
theorem merge_eq (o : Options) (ini : Ini) : merge o ini = {
    listen := (o.listen <|> Item.listen.find? ini).getD "127.0.0.1".toList
    port := (o.port <|> Item.port.find? ini).getD 8080
    threads := (o.threads <|> Item.threads.find? ini).getD 8
    waitSeconds := (o.waitTimeout <|> Item.waitTimeout.find? ini).getD 5
    maxBodySize := (o.maxBodySize.map bytesOfUnits <|> Item.maxBodySize.find? ini).getD (64 * 2 ^ 20)
    maxHeaderSize := (Item.maxHeaderSize.find? ini).getD (8 * 2 ^ 10)
    verbose := o.verbose || (Item.verbose.find? ini).getD false
    detailed := o.detailedLogging || (Item.detailed.find? ini).getD false } := by
  have hlisten : Item.listen.find? ini = ini.text? "server".toList "listen".toList := Option.bind_fun_some _
  rw [hlisten]
  rfl

/-- **The merged settings** are there for every command line and every file, and there are no others. -/
theorem merged_iff (h : ∀ n ∈ o.maxBodySize, n ≤ 10240) : Merged o ini s ↔ s = merge o ini := by
  have hbytes : o.maxBodySize.map bytesOfUnits = o.maxBodySize.map (· * 2 ^ 20) :=
    Option.map_congr fun n hn => (bytesOfUnits_eq (h n hn)).2
  rw [merge_eq, hbytes]
  constructor
  · intro hs
    cases s
    rw [Settings.mk.injEq]
    exact ⟨(Item.chosen_iff _).mp hs.listen, (Item.chosen_iff _).mp hs.port, (Item.chosen_iff _).mp hs.threads,
      (Item.chosen_iff _).mp hs.waitSeconds, (Item.chosen_iff _).mp hs.maxBodySize,
      (Item.chosen_iff _).mp hs.maxHeaderSize, (Item.flag_iff _).mp hs.verbose, (Item.flag_iff _).mp hs.detailed⟩
  · rintro rfl
    exact ⟨(Item.chosen_iff _).mpr rfl, (Item.chosen_iff _).mpr rfl, (Item.chosen_iff _).mpr rfl,
      (Item.chosen_iff _).mpr rfl, (Item.chosen_iff _).mpr rfl, (Item.chosen_iff _).mpr rfl,
      (Item.flag_iff _).mpr rfl, (Item.flag_iff _).mpr rfl⟩

theorem fault?_eq_none_iff : s.fault? = none ↔ IsUsable s := by
  unfold fault? minHeaderSize
  constructor
  · intro h
    split_ifs at h with h1 h2 h3 h4
    exact ⟨by omega, by omega, by omega, by omega⟩
  · rintro ⟨h1, h2, h3, h4⟩
    rw [if_neg (by omega), if_neg (by omega), if_neg (by omega), if_neg (by omega)]

/-- **Settings are run with** just if they are the ones that are made, and they are usable. -/
theorem ofSources_eq_ok_iff : ofSources o ini = .ok s ↔ s = merge o ini ∧ IsUsable s := by
  unfold ofSources check
  rw [← fault?_eq_none_iff]
  cases hfault : (merge o ini).fault? with
  | none =>
    constructor
    · intro h
      cases h
      exact ⟨rfl, hfault⟩
    · rintro ⟨rfl, -⟩
      rfl
  | some fault =>
    simp only [reduceCtorEq, false_iff]
    rintro ⟨rfl, hnone⟩
    rw [hfault] at hnone
    cases hnone

/-! ### The values that count -/

/-- What the file has at this key of this section decides a setting: the command line leaves the setting to it,
and it is of the setting's type. -/
inductive Counts (o : Options) (ini : Ini) : Text → Text → Prop
  | listen : o.listen = none → (∃ v, Item.listen.Says ini v) → Counts o ini Item.listen.group Item.listen.key
  | port : o.port = none → (∃ v, Item.port.Says ini v) → Counts o ini Item.port.group Item.port.key
  | threads : o.threads = none → (∃ v, Item.threads.Says ini v) →
      Counts o ini Item.threads.group Item.threads.key
  | waitTimeout : o.waitTimeout = none → (∃ v, Item.waitTimeout.Says ini v) →
      Counts o ini Item.waitTimeout.group Item.waitTimeout.key
  | maxBodySize : o.maxBodySize = none → (∃ v, Item.maxBodySize.Says ini v) →
      Counts o ini Item.maxBodySize.group Item.maxBodySize.key
  | maxHeaderSize : (∃ v, Item.maxHeaderSize.Says ini v) →
      Counts o ini Item.maxHeaderSize.group Item.maxHeaderSize.key
  | verbose : o.verbose = false → (∃ v, Item.verbose.Says ini v) →
      Counts o ini Item.verbose.group Item.verbose.key
  | detailed : o.detailedLogging = false → (∃ v, Item.detailed.Says ini v) →
      Counts o ini Item.detailed.group Item.detailed.key

/-- The values that count are the same in both files. -/
def SameValues (o : Options) (ini ini' : Ini) : Prop :=
  ∀ name key, Counts o ini name key ∨ Counts o ini' name key → ini'.text? name key = ini.text? name key

/-- **Only the values that count matter** to the settings. -/
theorem merge_congr (h : SameValues o ini ini') : merge o ini' = merge o ini := by
  have hlisten : o.listen = none → Item.listen.find? ini' = Item.listen.find? ini := fun hnone =>
    Item.listen.find?_congr fun hsaid => h _ _ (hsaid.imp (.listen hnone) (.listen hnone))
  have hport : o.port = none → Item.port.find? ini' = Item.port.find? ini := fun hnone =>
    Item.port.find?_congr fun hsaid => h _ _ (hsaid.imp (.port hnone) (.port hnone))
  have hthreads : o.threads = none → Item.threads.find? ini' = Item.threads.find? ini := fun hnone =>
    Item.threads.find?_congr fun hsaid => h _ _ (hsaid.imp (.threads hnone) (.threads hnone))
  have hwait : o.waitTimeout = none → Item.waitTimeout.find? ini' = Item.waitTimeout.find? ini := fun hnone =>
    Item.waitTimeout.find?_congr fun hsaid => h _ _ (hsaid.imp (.waitTimeout hnone) (.waitTimeout hnone))
  have hbody : o.maxBodySize = none → Item.maxBodySize.find? ini' = Item.maxBodySize.find? ini := fun hnone =>
    Item.maxBodySize.find?_congr fun hsaid => h _ _ (hsaid.imp (.maxBodySize hnone) (.maxBodySize hnone))
  have hheader : Item.maxHeaderSize.find? ini' = Item.maxHeaderSize.find? ini :=
    Item.maxHeaderSize.find?_congr fun hsaid => h _ _ (hsaid.imp .maxHeaderSize .maxHeaderSize)
  have hverbose : o.verbose = false → Item.verbose.find? ini' = Item.verbose.find? ini := fun hoff =>
    Item.verbose.find?_congr fun hsaid => h _ _ (hsaid.imp (.verbose hoff) (.verbose hoff))
  have hdetailed : o.detailedLogging = false → Item.detailed.find? ini' = Item.detailed.find? ini := fun hoff =>
    Item.detailed.find?_congr fun hsaid => h _ _ (hsaid.imp (.detailed hoff) (.detailed hoff))
  have hbytes : o.maxBodySize.map bytesOfUnits = none → Item.maxBodySize.find? ini' = Item.maxBodySize.find? ini :=
    fun hnone => hbody (Option.map_eq_none_iff.mp hnone)
  rw [merge_eq, merge_eq, Item.listen.orElse_congr hlisten, Item.port.orElse_congr hport,
    Item.threads.orElse_congr hthreads, Item.waitTimeout.orElse_congr hwait, Item.maxBodySize.orElse_congr hbytes,
    hheader, Item.verbose.flag_congr hverbose, Item.detailed.flag_congr hdetailed]

/-! ### The result -/

/-- **The settings that are run with** are the merged ones, of which there are some and no others, if these are
usable; if they are not, there is an error. A body size in units does not overflow, the limits of the requests are
the two merged sizes, and nothing in the file matters to the result but the values that count. -/
theorem ofSources_merges (h : ∀ n ∈ o.maxBodySize, n ≤ 10240) :
    (∀ n ∈ o.maxBodySize, n * 2 ^ 20 < 2 ^ 64 ∧ bytesOfUnits n = n * 2 ^ 20) ∧
      (∃ s, ∀ s', Merged o ini s' ↔ s' = s) ∧
      (∀ s, ofSources o ini = .ok s ↔ Merged o ini s ∧ IsUsable s) ∧
      (∀ s, ofSources o ini = .ok s →
        Item.maxHeaderSize.Chosen none (8 * 2 ^ 10) ini s.limits.maxHeaderSize ∧
        Item.maxBodySize.Chosen (o.maxBodySize.map (· * 2 ^ 20)) (64 * 2 ^ 20) ini s.limits.maxBodySize) ∧
      ∀ ini', SameValues o ini ini' → ofSources o ini' = ofSources o ini := by
  have hok : ∀ s, ofSources o ini = .ok s ↔ Merged o ini s ∧ IsUsable s := by
    intro s
    rw [ofSources_eq_ok_iff, merged_iff h]
  refine ⟨fun n hn => bytesOfUnits_eq (h n hn), ⟨merge o ini, fun s' => merged_iff h⟩, hok, ?_, ?_⟩
  · intro s hs
    have hmerged := ((hok s).mp hs).1
    exact ⟨hmerged.maxHeaderSize, hmerged.maxBodySize⟩
  · intro ini' hsame
    unfold ofSources
    rw [merge_congr hsame]

/-- A file with a port that the command line overrides, a number of threads that is none, and four settings that
count. -/
def sampleIni (port threads : String) : Ini :=
  ⟨[⟨"server".toList, "port".toList, port.toList⟩, ⟨"server".toList, "threads".toList, threads.toList⟩,
    ⟨"stream".toList, "wait_timeout".toList, "+7".toList⟩,
    ⟨"request".toList, "max_header_size".toList, "1KB".toList⟩,
    ⟨"logging".toList, "verbose".toList, "ON".toList⟩, ⟨"logging".toList, "detailed".toList, "no".toList⟩]⟩

def sampleOptions : Options := { port := some 9000, maxBodySize := some 10240 }

def sampleSettings : Settings :=
  { port := 9000, waitSeconds := 7, maxBodySize := 10737418240, maxHeaderSize := 1024, verbose := true }

theorem ofSources_merges_sample :
    (∀ n ∈ sampleOptions.maxBodySize, n ≤ 10240) ∧
      ofSources sampleOptions (sampleIni "80" "many") = .ok sampleSettings ∧
      Merged sampleOptions (sampleIni "80" "many") sampleSettings ∧ IsUsable sampleSettings ∧
      ofSources sampleOptions (sampleIni "none" "-1") = .ok sampleSettings := by
  have hunits : ∀ n ∈ sampleOptions.maxBodySize, n ≤ 10240 := by decide
  obtain ⟨-, -, hok, -, hsame⟩ := @ofSources_merges sampleOptions (sampleIni "80" "many") hunits
  have hsample : ofSources sampleOptions (sampleIni "80" "many") = .ok sampleSettings :=
    ofSources_eq_ok_iff.mpr ⟨by decide +kernel, by decide, by decide, by decide, by decide⟩
  have hthreads : ∀ ini ∈ [sampleIni "80" "many", sampleIni "none" "-1"], ¬ ∃ v, Item.threads.Says ini v := by
    intro ini hini
    rw [not_exists, ← Item.find?_eq_none_iff]
    revert ini
    decide +kernel
  have hvalues : SameValues sampleOptions (sampleIni "80" "many") (sampleIni "none" "-1") := by
    rintro name key (hcounts | hcounts)
    · cases hcounts with
      | port hnone => cases hnone
      | threads _ hsaid => exact absurd hsaid (hthreads _ (by decide))
      | _ => decide
    · cases hcounts with
      | port hnone => cases hnone
      | threads _ hsaid => exact absurd hsaid (hthreads _ (by decide))
      | _ => decide
  obtain ⟨hmerged, husable⟩ := (hok _).mp hsample
  exact ⟨hunits, hsample, hmerged, husable, (hsame _ hvalues).trans hsample⟩

end Settings

end FormCapture
