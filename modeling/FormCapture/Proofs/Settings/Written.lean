import FormCapture.Proofs.Settings.LastAssignment
import Mathlib.Data.List.Nodup

/-! # INI documents that are written

A document of sections, keys and values, written with a section line for each section and a line
`key = "value"` for each of its keys. Between its first and its last quote a value is taken as it stands, so
it may hold anything but a line feed; of names and keys it is asked that they are read as they are written.
Such a line says what was written (`assigns_entryLine`, `opens_headingLine`), so the document is read without
a fault, entry by entry (`parseLines_writtenLines`), and as no key of a section is written twice each has the
value that it was written with: `parse_written`. -/

namespace FormCapture

namespace Line

variable {name key : Text}

/-- The line that opens a section. -/
def headingLine (name : Text) : Text := '[' :: (name ++ [']'])

/-- The line that assigns a value, in quotes. -/
def entryLine (key value : Text) : Text := key ++ ' ' :: '=' :: ' ' :: '"' :: (value ++ ['"'])

/-- A name that a section can be given as it is. -/
structure IsName (name : Text) : Prop where
  ne_nil : name ≠ []
  trimmed : name.trim = name
  small : name.lower = name
  noLineFeed : '\n' ∉ name

/-- A key that can be assigned as it is. -/
structure IsKey (key : Text) : Prop where
  ne_nil : key ≠ []
  trimmed : key.trim = key
  small : key.lower = key
  noEquals : '=' ∉ key
  noLineFeed : '\n' ∉ key
  start : key.head? ≠ some '[' ∧ key.head? ≠ some '#' ∧ key.head? ≠ some ';'

instance (name : Text) : Decidable (IsName name) :=
  decidable_of_iff (name ≠ [] ∧ name.trim = name ∧ name.lower = name ∧ '\n' ∉ name)
    ⟨fun ⟨h1, h2, h3, h4⟩ => ⟨h1, h2, h3, h4⟩, fun h => ⟨h.1, h.2, h.3, h.4⟩⟩

instance (key : Text) : Decidable (IsKey key) :=
  decidable_of_iff (key ≠ [] ∧ key.trim = key ∧ key.lower = key ∧ '=' ∉ key ∧ '\n' ∉ key ∧
      key.head? ≠ some '[' ∧ key.head? ≠ some '#' ∧ key.head? ≠ some ';')
    ⟨fun ⟨h1, h2, h3, h4, h5, h6⟩ => ⟨h1, h2, h3, h4, h5, h6⟩,
      fun h => ⟨h.1, h.2, h.3, h.4, h.5, h.6⟩⟩

/-- **A value in quotes is taken as it stands.** -/
theorem cleanValue_quoted (value : Text) : cleanValue (' ' :: '"' :: (value ++ ['"'])) = value := by
  have htrim : Text.trim (' ' :: '"' :: (value ++ ['"'])) = '"' :: (value ++ ['"']) := by
    rw [Text.trim_cons_white (by decide)]
    exact Text.trim_eq_self (by decide) (by decide) value
  have hquotes : unquote? ('"' :: (value ++ ['"'])) = some value := by
    rw [unquote?, if_pos List.getLast?_concat, List.dropLast_concat]
  rw [cleanValue, htrim, hquotes]

theorem opens_headingLine (h : IsName name) : Opens (headingLine name) name := by
  have htrim : (headingLine name).trim = headingLine name :=
    Text.trim_eq_self (by decide) (by decide) name
  refine ⟨name, htrim, ?_, ?_⟩
  · rw [h.trimmed]
    exact h.ne_nil
  · rw [h.trimmed, h.small]

theorem trim_entryLine (h : IsKey key) (value : Text) : (entryLine key value).trim = entryLine key value := by
  obtain ⟨c, rest, rfl⟩ := List.exists_cons_of_ne_nil h.ne_nil
  have hc : Text.isWhite c = false := Text.head?_trim (c :: rest) c (by rw [h.trimmed]; rfl)
  have hline : entryLine (c :: rest) value =
      c :: (rest ++ ' ' :: '=' :: ' ' :: '"' :: value) ++ ['"'] := by simp [entryLine]
  rw [hline]
  exact Text.trim_eq_self hc (by decide) _

theorem isAssignment_entryLine (h : IsKey key) (value : Text) : IsAssignment (entryLine key value) := by
  have htrim := trim_entryLine h value
  obtain ⟨c, rest, rfl⟩ := List.exists_cons_of_ne_nil h.ne_nil
  obtain ⟨hbracket, hhash, hsemicolon⟩ := h.start
  have hhead : (entryLine (c :: rest) value).head? = (c :: rest).head? := rfl
  rw [IsAssignment, IsSkipped, IsSection, htrim, hhead]
  exact ⟨not_or.mpr ⟨List.cons_ne_nil _ _, not_or.mpr ⟨hhash, hsemicolon⟩⟩, hbracket⟩

theorem assigns_entryLine (h : IsKey key) (value : Text) : Assigns (entryLine key value) key value := by
  have hline : entryLine key value = (key ++ [' ']) ++ '=' :: ' ' :: '"' :: (value ++ ['"']) := by
    simp [entryLine]
  have htrim : Text.trim (key ++ [' ']) = key := by
    rw [Text.trim_append_white (by decide), h.trimmed]
  refine ⟨isAssignment_entryLine h value, key ++ [' '], ' ' :: '"' :: (value ++ ['"']), ?_, ?_, ?_, ?_, ?_⟩
  · rw [trim_entryLine h, hline]
  · exact List.not_mem_append h.noEquals (by decide)
  · rw [htrim]
    exact h.ne_nil
  · rw [htrim, h.small]
  · exact (cleanValue_quoted value).symm

theorem isLine_headingLine (h : '\n' ∉ name) : (headingLine name).IsLine := by
  refine ⟨?_, ?_⟩
  · simp [headingLine, h]
  · rw [headingLine, ← List.cons_append, List.getLast?_concat]
    decide

theorem isLine_entryLine {value : Text} (hkey : '\n' ∉ key) (hvalue : '\n' ∉ value) :
    (entryLine key value).IsLine := by
  have hline : entryLine key value = (key ++ ' ' :: '=' :: ' ' :: '"' :: value) ++ ['"'] := by
    simp [entryLine]
  refine ⟨?_, ?_⟩
  · simp [entryLine, hkey, hvalue]
  · rw [hline, List.getLast?_concat]
    decide

end Line

/-- Where a setting is looked up. -/
def Setting.place (s : Setting) : Text × Text := (s.group, s.key)

namespace Ini

open Line

/-! ### Documents to write -/

/-- A section, with its keys and their values. -/
structure Group where
  /-- The name of the section, empty for what stands before the first section line. -/
  name : Text
  entries : List (Text × Text)
  deriving DecidableEq, Repr

namespace Group

/-- The lines of a section: one that opens it, unless its name is empty, and one for each entry. -/
def lines (g : Group) : List Text :=
  (if g.name = [] then [] else [headingLine g.name]) ++ g.entries.map fun e => entryLine e.1 e.2

/-- What a section sets. -/
def settings (g : Group) : List Setting := g.entries.map fun e => ⟨g.name, e.1, e.2⟩

end Group

def writtenLines (groups : List Group) : List Text := groups.flatMap Group.lines

/-- The document can be written: each section and each key of a section stands in it once, a section with an
empty name only at the front, and names, keys and values are such that they fit into their lines. -/
structure IsWritable (groups : List Group) : Prop where
  names_nodup : (groups.map Group.name).Nodup
  keys_nodup : ∀ g ∈ groups, (g.entries.map Prod.fst).Nodup
  named : ∀ g ∈ groups.tail, g.name ≠ []
  isName : ∀ g ∈ groups, g.name ≠ [] → IsName g.name
  isKey : ∀ g ∈ groups, ∀ e ∈ g.entries, IsKey e.1
  noLineFeed : ∀ g ∈ groups, ∀ e ∈ g.entries, '\n' ∉ e.2

instance (groups : List Group) : Decidable (IsWritable groups) :=
  decidable_of_iff ((groups.map Group.name).Nodup ∧ (∀ g ∈ groups, (g.entries.map Prod.fst).Nodup) ∧
      (∀ g ∈ groups.tail, g.name ≠ []) ∧ (∀ g ∈ groups, g.name ≠ [] → IsName g.name) ∧
      (∀ g ∈ groups, ∀ e ∈ g.entries, IsKey e.1) ∧ ∀ g ∈ groups, ∀ e ∈ g.entries, '\n' ∉ e.2)
    ⟨fun ⟨h1, h2, h3, h4, h5, h6⟩ => ⟨h1, h2, h3, h4, h5, h6⟩,
      fun h => ⟨h.1, h.2, h.3, h.4, h.5, h.6⟩⟩

/-- The document gives the key of the section this value. -/
def Holds (groups : List Group) (name key value : Text) : Prop :=
  ∃ g ∈ groups, g.name = name ∧ (key, value) ∈ g.entries

section

variable {groups : List Group} {g : Group} {start name key value : Text} {settings : List Setting}
  {rest : List Text} {n : Nat}

theorem isLine_of_mem_writtenLines (h : IsWritable groups) : ∀ line ∈ writtenLines groups, line.IsLine := by
  intro line hline
  obtain ⟨g, hg, hline⟩ := List.mem_flatMap.mp hline
  rcases List.mem_append.mp hline with hline | hline
  · split_ifs at hline with hname
    · cases hline
    · rw [List.mem_singleton.mp hline]
      exact isLine_headingLine (h.isName g hg hname).noLineFeed
  · obtain ⟨e, he, rfl⟩ := List.mem_map.mp hline
    exact isLine_entryLine (h.isKey g hg e he).noLineFeed (h.noLineFeed g hg e he)

theorem ne_nil_of_mem_writtenLines : ∀ line ∈ writtenLines groups, line ≠ [] := by
  intro line hline
  obtain ⟨g, -, hline⟩ := List.mem_flatMap.mp hline
  rcases List.mem_append.mp hline with hline | hline
  · split_ifs at hline
    · cases hline
    · rw [List.mem_singleton.mp hline]
      exact List.cons_ne_nil _ _
  · obtain ⟨e, -, rfl⟩ := List.mem_map.mp hline
    exact List.append_ne_nil_of_right_ne_nil _ (List.cons_ne_nil _ _)

/-! ### Reading them -/

theorem parseLines_headingLine (h : IsName name) :
    parseLines n start settings (headingLine name :: rest) = parseLines (n + 1) name settings rest := by
  rw [parseLines, (Says.heading (opens_headingLine h)).ofText_eq]

theorem parseLines_entryLine (h : IsKey key) :
    parseLines n start settings (entryLine key value :: rest) =
      parseLines (n + 1) start (⟨start, key, value⟩ :: settings) rest := by
  rw [parseLines, (Says.assignment (assigns_entryLine h value)).ofText_eq]

theorem parseLines_entries {entries : List (Text × Text)} (h : ∀ e ∈ entries, IsKey e.1) :
    parseLines n name settings (entries.map (fun e => entryLine e.1 e.2) ++ rest) =
      parseLines (n + entries.length) name ((Group.mk name entries).settings.reverse ++ settings) rest := by
  induction entries generalizing n settings with
  | nil => rfl
  | cons e entries ih =>
    obtain ⟨he, hentries⟩ := List.forall_mem_cons.mp h
    rw [List.map_cons, List.cons_append, parseLines_entryLine he, ih hentries, List.length_cons]
    simp [Group.settings, Nat.add_comm 1, Nat.add_assoc]

/-- The lines of a section are read as what it sets, whatever stands before and behind them; if its name is
empty, no other section is open where they start. -/
theorem parseLines_groupLines (hname : g.name ≠ [] → IsName g.name) (hstart : g.name = [] → start = [])
    (hkey : ∀ e ∈ g.entries, IsKey e.1) :
    parseLines n start settings (g.lines ++ rest) =
      parseLines (n + g.lines.length) g.name (g.settings.reverse ++ settings) rest := by
  by_cases hempty : g.name = []
  · have hlines : g.lines = g.entries.map fun e => entryLine e.1 e.2 := by
      rw [Group.lines, if_pos hempty, List.nil_append]
    rw [hlines, hstart hempty, ← hempty, parseLines_entries hkey, List.length_map]
  · have hlines : g.lines = headingLine g.name :: g.entries.map fun e => entryLine e.1 e.2 := by
      rw [Group.lines, if_neg hempty, List.singleton_append]
    rw [hlines, List.cons_append, parseLines_headingLine (hname hempty), parseLines_entries hkey,
      List.length_cons, List.length_map, Nat.add_assoc, Nat.add_comm 1]

/-- **A document is read entry by entry**, without a fault. -/
theorem parseLines_writtenLines (hname : ∀ g ∈ groups, g.name ≠ [] → IsName g.name)
    (hkey : ∀ g ∈ groups, ∀ e ∈ g.entries, IsKey e.1) (hnamed : ∀ g ∈ groups.tail, g.name ≠ [])
    (hstart : ∀ g ∈ groups.head?, g.name = [] → start = []) :
    parseLines n start settings (writtenLines groups) =
      .ok ⟨(groups.flatMap Group.settings).reverse ++ settings⟩ := by
  induction groups generalizing n start settings with
  | nil => rfl
  | cons g groups ih =>
    obtain ⟨hname, hnames⟩ := List.forall_mem_cons.mp hname
    obtain ⟨hkey, hkeys⟩ := List.forall_mem_cons.mp hkey
    have hlines : writtenLines (g :: groups) = g.lines ++ writtenLines groups := List.flatMap_cons
    -- behind a section stand only sections with a name
    have hhead : ∀ next ∈ groups.head?, next.name = [] → g.name = [] := fun next hnext hempty =>
      absurd hempty (hnamed next (List.mem_of_mem_head? hnext))
    rw [hlines, parseLines_groupLines hname (hstart g rfl) hkey,
      ih hnames hkeys (fun next hnext => hnamed next (List.mem_of_mem_tail hnext)) hhead,
      List.flatMap_cons, List.reverse_append, List.append_assoc]

/-! ### Looking them up -/

/-- Where no place is set twice, the order of the settings does not matter. -/
theorem text?_eq_some_iff_mem (h : (settings.map Setting.place).Nodup) :
    (Ini.mk settings).text? name key = some value ↔ ⟨name, key, value⟩ ∈ settings := by
  induction settings with
  | nil => exact ⟨nofun, fun hmem => absurd hmem List.not_mem_nil⟩
  | cons s settings ih =>
    obtain ⟨hplace, hrest⟩ := List.nodup_cons.mp h
    obtain ⟨group, key', value'⟩ := s
    by_cases hsame : group = name ∧ key' = key
    · obtain ⟨rfl, rfl⟩ := hsame
      have hnot : ⟨group, key', value⟩ ∉ settings := fun hmem => hplace (List.mem_map.mpr ⟨_, hmem, rfl⟩)
      rw [text?_cons_self]
      simp [hnot, eq_comm]
    · rw [text?_cons_of_ne hsame, ih hrest]
      have hne : (⟨name, key, value⟩ : Setting) ≠ ⟨group, key', value'⟩ := fun heq => by
        cases heq
        exact hsame ⟨rfl, rfl⟩
      rw [List.mem_cons, or_iff_right hne]

theorem mem_settings_iff :
    (⟨name, key, value⟩ : Setting) ∈ groups.flatMap Group.settings ↔ Holds groups name key value := by
  simp only [List.mem_flatMap, Group.settings, List.mem_map, Holds, Setting.mk.injEq]
  constructor
  · rintro ⟨g, hg, e, he, hname, rfl, rfl⟩
    exact ⟨g, hg, hname, he⟩
  · rintro ⟨g, hg, hname, he⟩
    exact ⟨g, hg, _, he, hname, rfl, rfl⟩

/-- No place is set twice by a document that can be written. -/
theorem nodup_places (h : IsWritable groups) :
    ((groups.flatMap Group.settings).map Setting.place).Nodup := by
  rw [List.map_flatMap, List.nodup_flatMap]
  have hplaces : ∀ g : Group, g.settings.map Setting.place = (g.entries.map Prod.fst).map (Prod.mk g.name) := by
    intro g
    simp [Group.settings, Setting.place, Function.comp_def]
  refine ⟨fun g hg => ?_, ?_⟩
  · rw [hplaces]
    exact (h.keys_nodup g hg).map fun k k' hk => congrArg Prod.snd hk
  · refine (List.pairwise_map.mp h.names_nodup).imp fun {g g'} hne => ?_
    change List.Disjoint (g.settings.map Setting.place) (g'.settings.map Setting.place)
    rw [hplaces, hplaces, List.disjoint_left]
    intro place hmem hmem'
    obtain ⟨k, -, rfl⟩ := List.mem_map.mp hmem
    obtain ⟨k', -, hk'⟩ := List.mem_map.mp hmem'
    exact hne (congrArg Prod.fst hk').symm

/-- **A document that is written is read as it was**, whether its last line is ended or not: it has no fault,
each key of each section has its own value, and nothing else has any. -/
theorem parse_written (h : IsWritable groups) :
    ∃ ini, parse ((writtenLines groups).flatMap (· ++ ['\n'])) = .ok ini ∧
      parse (['\n'].intercalate (writtenLines groups)) = .ok ini ∧
      ∀ name key, (∀ value, ini.text? name key = some value ↔ Holds groups name key value) ∧
        (ini.text? name key = none ↔ ∀ value, ¬ Holds groups name key value) := by
  have hlines : Text.lines ((writtenLines groups).flatMap (· ++ ['\n'])) = writtenLines groups := by
    have hended := Text.lines_flatMap (isLine_of_mem_writtenLines h) []
    have hnil : Text.lines [] = [] := by
      rw [Text.lines]
      rfl
    rwa [List.append_nil, hnil, List.append_nil] at hended
  have hopen : Text.lines (['\n'].intercalate (writtenLines groups)) = writtenLines groups :=
    Text.lines_intercalate (isLine_of_mem_writtenLines h) fun line hline =>
      ne_nil_of_mem_writtenLines line (List.mem_of_getLast? hline)
  have hparse : ∀ n, parseLines n [] [] (writtenLines groups) =
      .ok ⟨(groups.flatMap Group.settings).reverse⟩ := by
    intro n
    rw [parseLines_writtenLines h.isName h.isKey h.named fun _ _ _ => rfl, List.append_nil]
  have hnodup : ((groups.flatMap Group.settings).reverse.map Setting.place).Nodup := by
    rw [List.map_reverse, List.nodup_reverse]
    exact nodup_places h
  have hvalue : ∀ name key value, (Ini.mk (groups.flatMap Group.settings).reverse).text? name key = some value ↔
      Holds groups name key value := by
    intro name key value
    rw [text?_eq_some_iff_mem hnodup, List.mem_reverse, mem_settings_iff]
  refine ⟨_, ?_, ?_, fun name key => ⟨hvalue name key, ?_⟩⟩
  · rw [parse, hlines, hparse]
  · rw [parse, hopen, hparse]
  · rw [Option.eq_none_iff_forall_ne_some]
    exact forall_congr' fun value => not_congr (hvalue name key value)

/-- Values that look like other lines, like comments and like the ends of a value, and an empty one. -/
def quotedGroups : List Group :=
  [⟨[], [("z".toList, " a ; b # c ".toList), ("a.b".toList, [])]⟩,
    ⟨"s [t] \"u".toList, [("k k".toList, "\" ; [x]\r\" = \"\r".toList)]⟩, ⟨"ß".toList, []⟩,
    ⟨"b".toList, [("z".toList, "\"\"".toList), ("\"".toList, "[t]".toList)]⟩]

theorem parse_written_quoted : IsWritable quotedGroups ∧
    ∃ ini, parse ((writtenLines quotedGroups).flatMap (· ++ ['\n'])) = .ok ini ∧
      ini.text? "b".toList "z".toList = some "\"\"".toList ∧ ini.text? "ß".toList "z".toList = none := by
  have h : IsWritable quotedGroups := by decide +kernel
  obtain ⟨ini, hini, -, hvalues⟩ := parse_written h
  have hheld : Holds quotedGroups "b".toList "z".toList "\"\"".toList :=
    ⟨_, List.mem_of_getElem? (i := 3) rfl, rfl, List.mem_cons_self⟩
  refine ⟨h, ini, hini, ((hvalues _ _).1 _).mpr hheld, (hvalues _ _).2.mpr ?_⟩
  rintro value ⟨g, hg, hname, hentry⟩
  have hempty : ∀ g ∈ quotedGroups, g.name = "ß".toList → g.entries = [] := by decide +kernel
  rw [hempty g hg hname] at hentry
  cases hentry

end

end Ini

end FormCapture
