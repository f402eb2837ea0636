import FormCapture.Proofs.Host.Actions
import FormCapture.Proofs.Host.Calls

/-! # Hosts that differ in their numbers

A step that concerns one connection is told by the entries of that connection and of its streams. So if
one host, seen from there, is another up to numbers (`Host.Mirrors`), a step comes to the same in both, up
to the same numbers (`Mirrors.action`). This holds of all arguments, those that are refused included: what
an error says then differs in a number at most (`Call.ofValues_agree`). -/

namespace FormCapture

/-- Numbers in the place of others. -/
structure Renumbering where
  descriptor : Nat → Nat
  handle : Nat → Nat

/-! ### Values, calls and steps -/

section Renumber

variable (ρ : Renumbering)

def Value.renumber : Value → Value
  | .stream n => .stream (ρ.handle n)
  | v => v

def Call.renumber : Call → Call
  | .openStream (.ofNat fd) => .openStream (.ofNat (ρ.descriptor fd))
  | .openStream (.negSucc m) => .openStream (.negSucc m)
  | .closeStream n => .closeStream (ρ.handle n)
  | .readByte n => .readByte (ρ.handle n)
  | .readHeaders n => .readHeaders (ρ.handle n)
  | .readPost n size => .readPost (ρ.handle n) size
  | .readMime n size boundary => .readMime (ρ.handle n) size boundary

def Session.renumber (session : Session) : Session :=
  { session with descriptor := ρ.descriptor session.descriptor }

namespace Host

/-- A step with other numbers. An integer is a descriptor if a stream is opened on it. -/
def Step.renumber : Step → Step
  | .connect => .connect
  | .send fd bytes => .send (ρ.descriptor fd) bytes
  | .hangup fd => .hangup (ρ.descriptor fd)
  | .closeDescriptor fd => .closeDescriptor (ρ.descriptor fd)
  | .openStreams => .openStreams
  | .functions => .functions
  | .call name values =>
    match (Step.call name values).call? with
    | some (.openStream (.ofNat fd)) => .call name [.int (ρ.descriptor fd)]
    | _ => .call name (values.map (·.renumber ρ))

end Host

/-! ### Answers -/

/-- The same error, or one that names a handle or a descriptor by its other number. -/
inductive Error.Renumbered : Error → Error → Prop
  | same (e : Error) : Renumbered e e
  | handle (before after : String) (n : Nat) :
      Renumbered (.invalidArgument (before ++ toString n ++ after))
        (.invalidArgument (before ++ toString (ρ.handle n) ++ after))
  | descriptor (before : String) (fd : Nat) :
      Renumbered (.invalidArgument (before ++ toString fd))
        (.invalidArgument (before ++ toString (ρ.descriptor fd)))

namespace Host

/-- The same answer up to numbers. Two counts of streams have nothing to do with each other. -/
inductive Answer.Renumbered : Answer → Answer → Prop
  | descriptor (fd : Nat) : Renumbered (.descriptor fd) (.descriptor (ρ.descriptor fd))
  | done (success : Bool) : Renumbered (.done success) (.done success)
  | names (l : List String) : Renumbered (.names l) (.names l)
  | value (v : Value) : Renumbered (.result (.ok v)) (.result (.ok (v.renumber ρ)))
  | error {e e' : Error} : e.Renumbered ρ e' → Renumbered (.result (.error e)) (.result (.error e'))

inductive Reply.Renumbered : Reply → Reply → Prop
  | plain {answer answer' : Answer} : answer.Renumbered ρ answer' →
      Renumbered (.plain answer) (.plain answer')
  | descriptor : Renumbered .descriptor .descriptor
  | handle : Renumbered .handle .handle

structure Action.Renumbered (action action' : Action) : Prop where
  reply : action.reply.Renumbered ρ action'.reply
  sockets : action'.sockets = action.sockets.map ρ.descriptor id
  sessions : action'.sessions = action.sessions.map ρ.handle (Session.renumber ρ)

end Host

end Renumber

/-! ### Arguments -/

section Arguments

variable {ρ : Renumbering}

theorem Value.describe_stream (n : Nat) :
    (Value.stream n).describe = "Stream(StreamHandle(" ++ toString n ++ "))" := rfl

theorem Error.Renumbered.describe (before after : String) (v : Value) :
    Error.Renumbered ρ (.invalidArgument (before ++ v.describe ++ after))
      (.invalidArgument (before ++ (v.renumber ρ).describe ++ after)) := by
  cases v with
  | stream n =>
    have hsplit : ∀ m : Nat, before ++ (Value.stream m).describe ++ after =
        (before ++ "Stream(StreamHandle(") ++ toString m ++ ("))" ++ after) := fun m => by
      rw [Value.describe_stream, String.append_assoc, String.append_assoc, String.append_assoc,
        String.append_assoc, String.append_assoc]
    show Error.Renumbered ρ (.invalidArgument (before ++ (Value.stream n).describe ++ after))
      (.invalidArgument (before ++ (Value.stream (ρ.handle n)).describe ++ after))
    rw [hsplit, hsplit]
    exact .handle _ _ n
  | undefined | null | bool | int | text =>
    exact .same (.invalidArgument _)

/-- Both are there, or both are errors that are the same up to numbers. -/
inductive Agree (ρ : Renumbering) {α : Type} : Except Error α → Except Error α → Prop
  | ok (a b : α) : Agree ρ (.ok a) (.ok b)
  | error {e e' : Error} : e.Renumbered ρ e' → Agree ρ (.error e) (.error e')

theorem Agree.bind {α β : Type} {x y : Except Error α} (h : Agree ρ x y) {f g : α → Except Error β}
    (hfg : ∀ a b, Agree ρ (f a) (g b)) : Agree ρ (x >>= f) (y >>= g) := by
  cases h with
  | ok a b => exact hfg a b
  | error he => exact .error he

namespace Call

theorem handle_agree (index : Nat) (v : Value) :
    Agree ρ (handle index v) (handle index (v.renumber ρ)) := by
  cases v with
  | stream n => exact .ok _ _
  | _ => exact .error (.same _)

theorem size_agree (index : Nat) (v : Value) : Agree ρ (size index v) (size index (v.renumber ρ)) := by
  cases v with
  | int n =>
    cases n with
    | ofNat n => exact .ok _ _
    | negSucc n => exact .error (.same _)
  | stream n => exact .error (.describe _ ")" (.stream n))
  | _ => exact .error (.same _)

theorem boundary_agree (v : Value) : Agree ρ (boundary v) (boundary (v.renumber ρ)) := by
  cases v with
  | text t => exact .ok _ _
  | stream n =>
    have h := Error.Renumbered.describe (ρ := ρ) "boundary must be text, got " "" (.stream n)
    rw [String.append_empty, String.append_empty] at h
    exact .error h
  | _ => exact .error (.same _)

theorem descriptor_agree (v : Value) : Agree ρ (descriptor v) (descriptor (v.renumber ρ)) := by
  cases v with
  | int n => exact .ok _ _
  | stream n =>
    have h := Error.Renumbered.describe (ρ := ρ) "descriptor must be an integer, got " "" (.stream n)
    rw [String.append_empty, String.append_empty] at h
    exact .error h
  | _ => exact .error (.same _)

theorem ofValues_of_length_ne {f : Native} {values : List Value} (hlen : values.length ≠ f.arity) :
    ofValues f values = .error (.invalidArgument
      (f.name ++ " takes " ++ toString f.arity ++ " argument(s), got " ++ toString values.length)) := by
  unfold ofValues
  split
  all_goals first | exact absurd rfl hlen | rfl

/-- **Values are taken or refused** whatever the numbers of the streams among them. -/
theorem ofValues_agree (f : Native) (values : List Value) :
    Agree ρ (ofValues f values) (ofValues f (values.map (·.renumber ρ))) := by
  by_cases hlen : values.length = f.arity
  · cases f with
    | openStream =>
      obtain ⟨d, rfl⟩ := List.length_eq_one_iff.mp hlen
      exact (descriptor_agree d).bind fun _ _ => .ok _ _
    | closeStream | readByte | readHeaders =>
      obtain ⟨s, rfl⟩ := List.length_eq_one_iff.mp hlen
      exact (handle_agree 0 s).bind fun _ _ => .ok _ _
    | readPost =>
      obtain ⟨s, n, rfl⟩ := List.length_eq_two.mp hlen
      exact (size_agree 1 n).bind fun _ _ => (handle_agree 0 s).bind fun _ _ => .ok _ _
    | readMime =>
      obtain ⟨s, n, b, rfl⟩ := List.length_eq_three.mp hlen
      exact (size_agree 1 n).bind fun _ _ => (boundary_agree b).bind fun _ _ =>
        (handle_agree 0 s).bind fun _ _ => .ok _ _
  · rw [ofValues_of_length_ne hlen, ofValues_of_length_ne (by rwa [List.length_map]), List.length_map]
    exact .error (.same _)

end Call

end Arguments

/-- A call that names the connection or one of the streams that are kept, if any. -/
def Call.Concerns (fd : Nat) (kept : Nat → Prop) : Call → Prop
  | .openStream (.ofNat d) => d = fd
  | .openStream (.negSucc _) => True
  | .closeStream n | .readByte n | .readHeaders n | .readPost n _ | .readMime n _ _ => kept n

namespace Host

section Mirrored

variable {ρ : Renumbering} {fd : Nat} {kept : Nat → Prop} {h k : Host}

/-! ### Steps that concern a connection -/

/-- A step that names the connection or one of the streams that are kept, if any. -/
def Step.Concerns (fd : Nat) (kept : Nat → Prop) (s : Step) : Prop :=
  match s with
  | .send d _ | .hangup d | .closeDescriptor d => d = fd
  | .openStreams => False
  | .connect | .functions => True
  | .call _ _ => ∀ c, s.call? = some c → c.Concerns fd kept

theorem Step.call?_renumber {s : Step} {c : Call} (hc : s.call? = some c) :
    (s.renumber ρ).call? = some (c.renumber ρ) := by
  rw [call?_eq_some_iff]
  obtain rfl := call?_eq_some_iff.mp hc
  rw [renumber]
  cases c with
  | openStream d =>
    cases d <;> (rw [hc]; rfl)
  | _ =>
    rw [hc]
    rfl

/-- A call that is refused for its values is refused whatever the numbers. -/
theorem action_of_call?_none {name : Text} {values : List Value}
    (hc : (Step.call name values).call? = none) (h k : Host) :
    ∃ e e', h.action (.call name values) = .failure e ∧
      k.action ((Step.call name values).renumber ρ) = .failure e' ∧ e.Renumbered ρ e' := by
  have hsame : (Step.call name values).renumber ρ = .call name (values.map (·.renumber ρ)) := by
    rw [Step.renumber, hc]
  rw [hsame]
  cases hf : Native.ofName? name with
  | none =>
    exact ⟨.unknownFunction name, _, by simp only [action, hf], by simp only [action, hf], .same _⟩
  | some f =>
    have hagree := Call.ofValues_agree (ρ := ρ) f values
    cases hv : Call.ofValues f values with
    | ok c =>
      rw [Step.call?, hf, Option.bind_some, hv] at hc
      cases hc
    | error e =>
      rw [hv] at hagree
      generalize hv' : Call.ofValues f (values.map (·.renumber ρ)) = refused at hagree
      cases hagree with
      | error he => exact ⟨_, _, by simp only [action, hf, hv], by simp only [action, hf, hv'], he⟩

theorem action_of_call? {s : Step} {c : Call} (hc : s.call? = some c) (h : Host) :
    h.action s = h.callAction c := by
  obtain rfl := Step.call?_eq_some_iff.mp hc
  simp only [action, Native.ofName?_name, Call.ofValues_values]

/-! ### Hosts that are alike -/

/-- A host, seen from a connection and the streams that are kept, is another up to numbers; these streams
read the connection. -/
structure Mirrors (ρ : Renumbering) (fd : Nat) (kept : Nat → Prop) (h k : Host) : Prop where
  wait : k.wait = h.wait
  sockets : Table.Mirrors (· = fd) ρ.descriptor id h.sockets k.sockets
  sessions : Table.Mirrors kept ρ.handle (Session.renumber ρ) h.sessions k.sessions
  reads : ∀ {n session}, kept n → h.sessions.get? n = some session → session.descriptor = fd

theorem Mirrors.socket (hm : Mirrors ρ fd kept h k) :
    k.sockets.get? (ρ.descriptor fd) = h.sockets.get? fd := by
  rw [hm.sockets fd rfl, Option.map_id]
  rfl

theorem Mirrors.openSocket? (hm : Mirrors ρ fd kept h k) :
    k.openSocket? (ρ.descriptor fd) = h.openSocket? fd := by
  rw [Host.openSocket?, Host.openSocket?, hm.socket]

theorem Mirrors.stream? (hm : Mirrors ρ fd kept h k) {n : Nat} (hn : kept n) :
    k.stream? (ρ.handle n) = (h.stream? n).map fun found => (found.1.renumber ρ, found.2) := by
  rw [Host.stream?, Host.stream?, hm.sessions n hn]
  cases hget : h.sessions.get? n with
  | none => rfl
  | some session =>
    have hfd : session.descriptor = fd := hm.reads hn hget
    have hsocket : k.sockets.get? (session.renumber ρ).descriptor =
        h.sockets.get? session.descriptor := by
      show k.sockets.get? (ρ.descriptor session.descriptor) = _
      rw [hfd, hm.socket]
    simp only [Option.map_some, Option.bind_some, hsocket]
    cases h.sockets.get? session.descriptor <;> rfl

/-! ### Actions that are alike -/

theorem Action.Renumbered.failure {e e' : Error} (he : e.Renumbered ρ e') :
    (Action.failure e).Renumbered ρ (.failure e') :=
  ⟨.plain (.error he), rfl, rfl⟩

theorem Action.Renumbered.ofSocket (d : Nat) (change : Socket → Socket) (found : Option Socket) :
    (Action.ofSocket d change found).Renumbered ρ (.ofSocket (ρ.descriptor d) change found) := by
  cases found with
  | none => exact ⟨.plain (.done false), rfl, rfl⟩
  | some socket => exact ⟨.plain (.done true), rfl, rfl⟩

theorem Action.Renumbered.opening (wait d : Nat) (found : Option Socket) :
    (Action.opening wait d found).Renumbered ρ (.opening wait (ρ.descriptor d) found) := by
  cases found with
  | none => exact .failure (.descriptor _ d)
  | some socket => exact ⟨.handle, rfl, rfl⟩

theorem unknownStream_renumbered (n : Nat) :
    Error.Renumbered ρ (.invalidArgument ("unknown stream " ++ toString n))
      (.invalidArgument ("unknown stream " ++ toString (ρ.handle n))) := by
  have h := Error.Renumbered.handle (ρ := ρ) "unknown stream " "" n
  rwa [String.append_empty, String.append_empty] at h

theorem Action.Renumbered.closing (n : Nat) (found : Option (Session × Socket)) :
    (Action.closing n found).Renumbered ρ
      (.closing (ρ.handle n) (found.map fun found => (found.1.renumber ρ, found.2))) := by
  cases found with
  | none => exact .failure (unknownStream_renumbered n)
  | some found => exact ⟨.plain (.value .undefined), rfl, rfl⟩

/-- What a stream reads has no numbers in it. -/
theorem value_renumbered (answer : Stream.Answer) :
    Answer.Renumbered ρ (.result (Call.value answer)) (.result (Call.value answer)) := by
  have hok : ∀ {v : Value}, v.renumber ρ = v → Answer.Renumbered ρ (.result (.ok v)) (.result (.ok v)) := by
    intro v hv
    have h := Answer.Renumbered.value (ρ := ρ) v
    rwa [hv] at h
  have herror : ∀ e : Error, Answer.Renumbered ρ (.result (.error e)) (.result (.error e)) :=
    fun e => .error (.same e)
  cases answer with
  | byte b => exact hok rfl
  | headers block => cases block <;> exact hok rfl
  | post body => cases body <;> exact hok rfl
  | mime body =>
    cases body with
    | ok text => exact hok rfl
    | error e =>
      cases e with
      | shortRead => exact hok rfl
      | _ => exact herror _
  | bytes | limitedHeaders | request | closed => exact hok rfl

theorem Action.Renumbered.reading (n : Nat) (operation : Stream.Operation)
    (found : Option (Session × Socket)) :
    (Action.reading n operation found).Renumbered ρ
      (.reading (ρ.handle n) operation (found.map fun found => (found.1.renumber ρ, found.2))) := by
  cases found with
  | none => exact .failure (unknownStream_renumbered n)
  | some found => exact ⟨.plain (value_renumbered _), rfl, rfl⟩

theorem Mirrors.callAction (hm : Mirrors ρ fd kept h k) {c : Call} (hc : c.Concerns fd kept) :
    (h.callAction c).Renumbered ρ (k.callAction (c.renumber ρ)) := by
  cases c with
  | openStream d =>
    cases d with
    | negSucc m => exact .failure (.same _)
    | ofNat d =>
      obtain rfl : d = fd := hc
      simp only [Host.callAction, Call.renumber, hm.openSocket?, hm.wait]
      exact .opening _ _ _
  | closeStream n =>
    simp only [Host.callAction, Call.renumber, hm.stream? hc]
    exact .closing _ _
  | _ =>
    simp only [Host.callAction, Call.renumber, hm.stream? hc]
    exact .reading _ _ _

/-- **A step that concerns the connection** comes to the same in both hosts. -/
theorem Mirrors.action (hm : Mirrors ρ fd kept h k) {s : Step} (hs : s.Concerns fd kept) :
    (h.action s).Renumbered ρ (k.action (s.renumber ρ)) := by
  cases s with
  | connect => exact ⟨.descriptor, rfl, rfl⟩
  | send d bytes =>
    obtain rfl : d = fd := hs
    simp only [Host.action, Step.renumber, hm.openSocket?]
    exact .ofSocket _ _ _
  | hangup d =>
    obtain rfl : d = fd := hs
    simp only [Host.action, Step.renumber, hm.socket]
    exact .ofSocket _ _ _
  | closeDescriptor d =>
    obtain rfl : d = fd := hs
    simp only [Host.action, Step.renumber, hm.openSocket?]
    exact .ofSocket _ _ _
  | openStreams => exact hs.elim
  | functions => exact ⟨.plain (.names _), rfl, rfl⟩
  | call name values =>
    cases hc : (Step.call name values).call? with
    | none =>
      obtain ⟨e, e', hh, hk, he⟩ := action_of_call?_none (ρ := ρ) hc h k
      rw [hh, hk]
      exact .failure he
    | some c =>
      rw [action_of_call? hc, action_of_call? (Step.call?_renumber hc)]
      exact hm.callAction (hs c hc)

end Mirrored

end Host

end FormCapture
