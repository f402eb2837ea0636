import FormCapture.Proofs.Host.Subjects
import Mathlib.Logic.Equiv.Basic

/-! # Steps that can be exchanged

A step comes to the same before and after a step of another connection (`IsBooked.action_step`): a host that
is seen with the same numbers is mirrored by itself. What two such steps change are entries under different
numbers, so steps of different connections can be exchanged (`IsBooked.commute`). Only the handles of two
streams that are opened depend on the order.

A stream that is opened can take the handle that the other step names, which then concerns the other
connection; so both steps have to concern their connections in either order. As long as handles do not come
back they do (`IsBooked.subjectOf_step`). -/

namespace FormCapture

/-! ### The same numbers -/

def Renumbering.same : Renumbering := ⟨id, id⟩

theorem Value.renumber_same (v : Value) : v.renumber .same = v := by
  cases v <;> rfl

theorem Error.Renumbered.eq_of_same {e e' : Error} (he : e.Renumbered .same e') : e' = e := by
  cases he <;> rfl

theorem Table.Change.map_id {α : Type} (c : Table.Change α) : c.map id id = c := by
  cases c <;> rfl

namespace Host

theorem Step.renumber_same (s : Step) : s.renumber .same = s := by
  cases s with
  | call name values =>
    rw [Step.renumber]
    split
    · next fd hc =>
      obtain ⟨rfl, rfl⟩ := Step.call.inj (Step.call?_eq_some_iff.mp hc)
      rfl
    · rw [List.map_congr_left fun v _ => v.renumber_same, List.map_id']
  | _ => rfl

theorem Answer.Renumbered.eq_of_same {answer answer' : Answer} (ha : answer.Renumbered .same answer') :
    answer' = answer := by
  cases ha with
  | value v => rw [v.renumber_same]
  | error he => rw [he.eq_of_same]
  | _ => rfl

theorem Reply.Renumbered.eq_of_same {reply reply' : Reply} (hr : reply.Renumbered .same reply') :
    reply' = reply := by
  cases hr with
  | plain ha => rw [ha.eq_of_same]
  | _ => rfl

theorem Action.Renumbered.eq_of_same {action action' : Action} (ha : action.Renumbered .same action') :
    action' = action := by
  have hreply := ha.reply.eq_of_same
  have hsockets := ha.sockets.trans (Table.Change.map_id _)
  have hsessions := ha.sessions.trans (Table.Change.map_id _)
  cases action'
  cases action
  simp_all only

section Commuting

variable {h : Host} {xs : List Exchange} {s a b : Step} {d e n : Nat}

/-! ### Steps that hand out a number -/

/-- A step hands out a descriptor or a handle exactly if it answers with one. -/
structure Action.IsCoherent (action : Action) : Prop where
  descriptor : action.reply = .descriptor → action.sockets.IsIssue
  handle : action.reply = .handle → action.sessions.IsIssue

theorem Action.IsCoherent.of_plain {action : Action} {answer : Answer}
    (hreply : action.reply = .plain answer) : action.IsCoherent := by
  constructor
  all_goals
    rw [hreply]
    exact fun hne => nomatch hne

theorem isCoherent_ofSocket (fd : Nat) (change : Socket → Socket) (found : Option Socket) :
    (Action.ofSocket fd change found).IsCoherent := by
  cases found <;> exact .of_plain rfl

theorem isCoherent_callAction (h : Host) (c : Call) : (h.callAction c).IsCoherent := by
  cases c with
  | openStream fd =>
    cases fd with
    | negSucc => exact .of_plain rfl
    | ofNat fd =>
      rw [callAction]
      cases h.openSocket? fd with
      | none => exact .of_plain rfl
      | some socket => exact ⟨fun hne => (by cases hne), fun _ => trivial⟩
  | closeStream n =>
    rw [callAction]
    cases h.stream? n <;> exact .of_plain rfl
  | readByte n | readHeaders n | readPost n | readMime n =>
    rw [callAction]
    cases h.stream? n <;> exact .of_plain rfl

theorem isCoherent_action (h : Host) (s : Step) : (h.action s).IsCoherent := by
  cases s with
  | connect => exact ⟨fun _ => trivial, fun hne => (nomatch hne)⟩
  | send | hangup | closeDescriptor => exact isCoherent_ofSocket _ _ _
  | openStreams | functions => exact .of_plain rfl
  | call name values =>
    cases hc : (Step.call name values).call? with
    | none =>
      obtain ⟨e, -, hfails, -⟩ := action_of_call?_none (ρ := .same) hc h h
      rw [hfails]
      exact .of_plain rfl
    | some c =>
      rw [action_of_call? hc]
      exact h.isCoherent_callAction c

theorem exists_socket_of_callAction {c : Call} (hi : (h.callAction c).sessions.IsIssue) :
    ∃ fd socket, c = .openStream (.ofNat fd) ∧ h.openSocket? fd = some socket := by
  cases c with
  | openStream fd =>
    cases fd with
    | negSucc => exact hi.elim
    | ofNat fd =>
      cases hopen : h.openSocket? fd with
      | none =>
        rw [callAction, hopen] at hi
        exact hi.elim
      | some socket => exact ⟨fd, socket, rfl, hopen⟩
  | closeStream n =>
    rw [callAction, Action.closing.eq_def] at hi
    split at hi <;> exact hi.elim
  | readByte n | readHeaders n | readPost n | readMime n =>
    rw [callAction, Action.reading.eq_def] at hi
    split at hi <;> exact hi.elim

/-- A step that hands out a handle opens a stream. -/
theorem action_of_isIssue (hi : (h.action s).sessions.IsIssue) :
    ∃ fd, s.call? = some (.openStream (.ofNat fd)) ∧
      h.action s = ⟨.handle, .keep, .issue ⟨{ wait := h.wait }, fd⟩⟩ := by
  cases hc : s.call? with
  | none =>
    cases s with
    | call name values =>
      obtain ⟨e, -, hfails, -⟩ := action_of_call?_none (ρ := .same) hc h h
      rw [hfails] at hi
      exact hi.elim
    | send | hangup | closeDescriptor =>
      rw [action, Action.ofSocket.eq_def] at hi
      split at hi <;> exact hi.elim
    | _ => exact hi.elim
  | some c =>
    rw [action_of_call? hc] at hi ⊢
    obtain ⟨fd, socket, rfl, hopen⟩ := exists_socket_of_callAction hi
    rw [callAction, hopen]
    exact ⟨fd, rfl, rfl⟩

theorem opening?_of_isOn (hi : (h.action s).sessions.IsIssue) (hon : (h.action s).IsOn h d) :
    (⟨s, (h.step s).1⟩ : Exchange).opening? = some (h.sessions.next, d) := by
  obtain ⟨fd, hc, haction⟩ := action_of_isIssue hi
  rw [haction] at hon
  obtain rfl : fd = d := hon.entry rfl
  rw [step_eq_apply, haction]
  simp only [Exchange.opening?, hc]
  rfl

theorem Exchange.opening?_eq_some {x : Exchange} (hx : x.opening? = some (n, d)) :
    x.answer = .result (.ok (.stream n)) ∧ x.step.call? = some (.openStream (.ofNat d)) := by
  rw [opening?] at hx
  split at hx
  · cases hx
    exact ⟨‹_›, ‹_›⟩
  · cases hx

/-- A step that does not hand out a handle opens no stream. -/
theorem opening?_of_not_isIssue (hi : ¬ (h.action s).sessions.IsIssue) :
    (⟨s, (h.step s).1⟩ : Exchange).opening? = none := by
  refine Option.eq_none_iff_forall_ne_some.mpr fun ⟨n, d⟩ hx => ?_
  obtain ⟨hanswer, hc⟩ := Exchange.opening?_eq_some hx
  rw [step_eq_apply] at hanswer
  rw [action_of_call? hc] at hi hanswer
  cases hopen : h.openSocket? d with
  | none =>
    simp only [callAction, hopen] at hanswer
    cases hanswer
  | some socket =>
    rw [callAction, hopen] at hi
    exact hi trivial

/-- A step changes only the stream that it names, and the one that it opens. -/
theorem exists_call_of_number? (hn : (h.action s).sessions.number? h.sessions = some n)
    (hi : ¬ (h.action s).sessions.IsIssue) : ∃ c, s.call? = some c ∧ c.stream? = some n := by
  cases hc : s.call? with
  | none =>
    cases s with
    | call name values =>
      obtain ⟨e, -, hfails, -⟩ := action_of_call?_none (ρ := .same) hc h h
      rw [hfails] at hn
      cases hn
    | send | hangup | closeDescriptor =>
      rw [action, Action.ofSocket.eq_def] at hn
      split at hn <;> cases hn
    | _ => cases hn
  | some c =>
    rw [action_of_call? hc] at hn hi
    refine ⟨c, rfl, ?_⟩
    cases c with
    | openStream fd =>
      cases fd with
      | negSucc => cases hn
      | ofNat fd =>
        cases hopen : h.openSocket? fd with
        | none =>
          rw [callAction, hopen] at hn
          cases hn
        | some socket =>
          rw [callAction, hopen] at hi
          exact absurd trivial hi
    | closeStream m =>
      rw [callAction, Action.closing.eq_def] at hn
      split at hn
      · cases hn
      · exact hn
    | readByte m | readHeaders m | readPost m | readMime m =>
      rw [callAction, Action.reading.eq_def] at hn
      split at hn
      · cases hn
      · exact hn

/-! ### Owners -/

/-- The stream that is opened has the next handle from then on. -/
theorem ownerOf_concat {x : Exchange} {m : Nat} (hx : x.opening? = some (m, d)) (n : Nat) :
    ownerOf (xs ++ [x]) n = if m = n then some d else ownerOf xs n := by
  rw [ownerOf, roll_concat, hx]
  exact Roll.owner?_cons _ _ _ _

theorem IsBooked.isOn (hb : h.IsBooked xs) (hs : subjectOf h xs s = some d) : (h.action s).IsOn h d :=
  action_isOn hb.reads fun _ hd' => Option.some.inj (hd'.symm.trans hs)

/-- What comes of a step, after the exchanges so far. -/
def exchangesWith (h : Host) (xs : List Exchange) (s : Step) : List Exchange :=
  xs ++ [⟨s, (h.step s).1⟩]

/-- A stream that is opened does not get the handle that a step names which concerns another connection
afterwards. -/
theorem IsBooked.ne_next_of_number? (hb : h.IsBooked xs) (ha : subjectOf h xs a = some d) (hne : d ≠ e)
    (hafter : subjectOf (h.step a).2 (h.exchangesWith xs a) b = some e)
    (hi : (h.action a).sessions.IsIssue) (hb' : ¬ (h.action b).sessions.IsIssue) :
    (h.action b).sessions.number? h.sessions ≠ some h.sessions.next := by
  intro hn
  obtain ⟨c, hc, hstream⟩ := exists_call_of_number? hn hb'
  rw [subjectOf, subject?_of_stream? hc hstream, exchangesWith,
    ownerOf_concat (opening?_of_isOn hi (hb.isOn ha)), if_pos rfl] at hafter
  exact hne (Option.some.inj hafter)

/-- Steps of different connections, which they concern in either order, change entries under different
numbers, unless both open a stream. -/
theorem IsBooked.apply_comm (hb : h.IsBooked xs) (ha : subjectOf h xs a = some d)
    (hother : subjectOf h xs b = some e) (hne : d ≠ e)
    (hafter : subjectOf (h.step b).2 (h.exchangesWith xs b) a = some d)
    (hafter' : subjectOf (h.step a).2 (h.exchangesWith xs a) b = some e)
    (hissue : ¬ ((h.action a).sessions.IsIssue ∧ (h.action b).sessions.IsIssue)) :
    ((h.action a).apply ((h.action b).apply h).2).2 =
      ((h.action b).apply ((h.action a).apply h).2).2 := by
  have hona := hb.isOn ha
  have honb := hb.isOn hother
  have hsockets : (h.sockets.change (h.action b).sockets).change (h.action a).sockets =
      (h.sockets.change (h.action a).sockets).change (h.action b).sockets :=
    Table.change_comm fun m hm hm' => hne ((hona.sockets hm').symm.trans (honb.sockets hm))
  have hsessions : (h.sessions.change (h.action b).sessions).change (h.action a).sessions =
      (h.sessions.change (h.action a).sessions).change (h.action b).sessions := by
    refine Table.change_comm fun n hn hn' => ?_
    by_cases hi : (h.action a).sessions.IsIssue
    · have hi' : ¬ (h.action b).sessions.IsIssue := fun hi' => hissue ⟨hi, hi'⟩
      rw [(Table.next_change_of_isIssue hi).2] at hn'
      exact hb.ne_next_of_number? ha hne hafter' hi hi' (hn.trans hn'.symm)
    · by_cases hi' : (h.action b).sessions.IsIssue
      · rw [(Table.next_change_of_isIssue hi').2] at hn
        exact hb.ne_next_of_number? hother (Ne.symm hne) hafter hi' hi (hn'.trans hn.symm)
      · have hd := (hona.sessions hn').resolve_right hi
        have he := (honb.sessions hn).resolve_right hi'
        exact hne (Option.some.inj (hd.symm.trans he))
  rw [Action.apply, Action.apply, Action.apply, Action.apply]
  simp only [hsockets, hsessions]

end Commuting

end Host

end FormCapture
