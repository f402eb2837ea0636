import FormCapture.Text.Case

/-! # Header fields

The fields of a header block: names in small letters and values, a line each. A field that is given
more than once has one value, its values joined by a comma and a space, in order. -/

namespace FormCapture

/-- Names and values, in the order of their lines. -/
structure Fields where
  lines : List (Text × Text)
  deriving DecidableEq, Repr

namespace Fields

/-- What stands between the values of a repeated field. -/
def joint : Text := [',', ' ']

def join (values : List Text) : Text := joint.intercalate values

def values (fields : Fields) (name : Text) : List Text :=
  fields.lines.filterMap fun line => if line.1 = name then some line.2 else none

def get? (fields : Fields) (name : Text) : Option Text :=
  match fields.values name with
  | [] => none
  | values => some (join values)

/-- The order of names: that of their letters, the first difference deciding. -/
def upTo (a b : Text) : Bool := !List.lex b a fun c d => c.toNat < d.toNat

/-- Each name once, with its value, by the order of the names. -/
def toList (fields : Fields) : List (Text × Text) :=
  let groups := (fields.lines.mergeSort fun a b => upTo a.1 b.1).splitBy fun a b => a.1 == b.1
  groups.filterMap fun group => group.head?.map fun line => (line.1, join (group.map Prod.snd))

theorem values_append (l m : List (Text × Text)) (name : Text) :
    (Fields.mk (l ++ m)).values name = (Fields.mk l).values name ++ (Fields.mk m).values name := by
  simp [values]

theorem get?_of_mem {fields : Fields} {name value : Text} (h : (name, value) ∈ fields.lines) :
    fields.get? name = some (join (fields.values name)) ∧ value ∈ fields.values name := by
  have hmem : value ∈ fields.values name :=
    List.mem_filterMap.mpr ⟨(name, value), h, if_pos rfl⟩
  refine ⟨?_, hmem⟩
  unfold get?
  split
  · next hnone =>
    rw [hnone] at hmem
    cases hmem
  · rfl

theorem infix_join {value : Text} : ∀ {values : List Text}, value ∈ values → value <:+: join values
  | [only], h => by
    rw [List.mem_singleton.mp h]
    exact ⟨[], [], by simp [join]⟩
  | first :: second :: later, h => by
    have hjoin : join (first :: second :: later) = first ++ joint ++ join (second :: later) := by
      simp [join, List.intercalate]
    rw [hjoin]
    rcases List.mem_cons.mp h with rfl | h
    · exact ⟨[], joint ++ join (second :: later), by simp⟩
    · exact (infix_join h).trans (List.suffix_append _ _).isInfix

end Fields

end FormCapture
