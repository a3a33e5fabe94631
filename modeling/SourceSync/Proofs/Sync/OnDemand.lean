/-
Reading on demand. However the moves of a read and of its consumer interleave,
the consumer receives the items of the read in order, the read is never more than
two messages ahead, and once the consumer is gone nothing more is delivered and,
from the first refused item on, nothing more is read.
-/
import SourceSync.Proofs.Sync.Task

namespace SourceSync.Sync

open Json

variable {ω : Type}

namespace Channel

/-- What the read has left to do. -/
def rest (c : Channel ω) : Task ω :=
  match c.producer with
  | .working t => t
  | .offering item sent refused => .hand item c.world sent refused
  | .done => .ended c.world

/-- The item that is waiting to be put into the slot. -/
def offered (c : Channel ω) : List LazyItem :=
  match c.producer with
  | .offering item _ _ => [item]
  | _ => []

/-- What a move does, with everything it takes to make it. -/
inductive Moves (c : Channel ω) : Move → Channel ω → Prop where
  | offer {item : LazyItem} {world : ω} {sent refused : Task ω}
      (hproducer : c.producer = .working (.hand item world sent refused)) :
      Moves c .offer { c with
        producer := .offering item sent refused, begun := c.begun ++ [item], world := world }
  | send {item : LazyItem} {sent refused : Task ω}
      (hproducer : c.producer = .offering item sent refused) (hslot : c.slot = none)
      (hconsumer : c.consumer ≠ .gone) :
      Moves c .send { c with
        producer := .working sent, slot := some item, sent := c.sent ++ [item] }
  | refuse {item : LazyItem} {sent refused : Task ω}
      (hproducer : c.producer = .offering item sent refused) (hgone : c.consumer = .gone) :
      Moves c .refuse { c with producer := .working refused }
  | finish {world : ω} (hproducer : c.producer = .working (.ended world)) :
      Moves c .finish { c with producer := .done, world := world }
  | receive {item : LazyItem} (hconsumer : c.consumer = .listening)
      (hslot : c.slot = some item) :
      Moves c .receive { c with slot := none, received := c.received ++ [item] }
  | conclude (hconsumer : c.consumer = .listening) (hproducer : c.producer = .done)
      (hslot : c.slot = none) : Moves c .conclude { c with consumer := .atEnd }
  | leave (hconsumer : c.consumer ≠ .gone) :
      Moves c .leave { c with slot := none, consumer := .gone }

theorem moves_of_move? {c d : Channel ω} {m : Move} (hmove : c.move? m = some d) :
    c.Moves m d := by
  cases m with
  | offer =>
      simp only [move?] at hmove
      split at hmove
      · cases hmove
        exact .offer ‹_›
      · cases hmove
  | send =>
      simp only [move?] at hmove
      split at hmove
      · split at hmove
        · cases hmove
        · cases hmove
          exact .send ‹_› ‹_› ‹_›
      · cases hmove
  | refuse =>
      simp only [move?] at hmove
      split at hmove
      · split at hmove
        · cases hmove
          exact .refuse ‹_› ‹_›
        · cases hmove
      · cases hmove
  | finish =>
      simp only [move?] at hmove
      split at hmove
      · cases hmove
        exact .finish ‹_›
      · cases hmove
  | receive =>
      simp only [move?] at hmove
      split at hmove
      · cases hmove
        exact .receive ‹_› ‹_›
      · cases hmove
  | conclude =>
      simp only [move?] at hmove
      split at hmove
      · cases hmove
        exact .conclude ‹_› ‹_› ‹_›
      · cases hmove
  | leave =>
      simp only [move?] at hmove
      split at hmove
      · cases hmove
      · cases hmove
        exact .leave ‹_›

/-- Whatever every move keeps, every course of moves keeps. -/
theorem run?_induction {P : Channel ω → Prop}
    (hmoves : ∀ {c d : Channel ω} {m : Move}, P c → c.Moves m d → P d) {c d : Channel ω}
    {moves : List Move} (hc : P c) (hrun : c.run? moves = some d) : P d := by
  induction moves generalizing c with
  | nil =>
      cases hrun
      exact hc
  | cons m moves ih =>
      obtain ⟨next, hmove, hrest⟩ := Option.bind_eq_some_iff.mp hrun
      exact ih (hmoves hc (moves_of_move? hmove)) hrest

theorem run?_append (c : Channel ω) (before after : List Move) :
    c.run? (before ++ after) = (c.run? before).bind (·.run? after) := by
  induction before generalizing c with
  | nil => rfl
  | cons m before ih =>
      simp only [List.cons_append, run?, Option.bind_assoc]
      exact congrArg (Option.bind (c.move? m)) (funext ih)

/-- Nothing has been refused so far. -/
structure Unbroken (t : Task ω) (c : Channel ω) : Prop where
  leads : t.Leads c.sent c.rest
  begun : c.begun = c.sent ++ c.offered

/-- An item has been refused. The read has stopped where that happened. -/
structure Broken (t : Task ω) (c : Channel ω) : Prop where
  gone : c.consumer = .gone
  stops : c.rest.Stops c.world
  begun : (messagesAmong c.begun).length ≤ c.sent.length + 1
  sent : c.sent <+: t.items
  world : t.worldAfter c.sent.length = c.world

/-- The invariant of a channel whose read has had the task `t`. -/
structure Sound (t : Task ω) (c : Channel ω) : Prop where
  course : c.Unbroken t ∨ c.Broken t
  /-- Nothing is lost before the consumer goes away. -/
  arrived : c.consumer ≠ .gone → c.received ++ c.slot.toList = c.sent
  received : c.received <+: c.sent
  ahead : c.sent.length ≤ c.received.length + 1
  ended : c.consumer = .atEnd → c.producer = .done ∧ c.slot = none

section Moves

variable {t : Task ω} {c d : Channel ω} {m : Move}

theorem rest_of_working {left : Task ω} (hproducer : c.producer = .working left) :
    c.rest = left := by
  rw [rest, hproducer]

theorem rest_of_offering {item : LazyItem} {sent refused : Task ω}
    (hproducer : c.producer = .offering item sent refused) :
    c.rest = .hand item c.world sent refused := by
  rw [rest, hproducer]

/-- Behind the consumer's going away nothing is sent and nothing is received. -/
theorem Moves.of_gone (hmoves : c.Moves m d) (hgone : c.consumer = .gone) :
    d.consumer = .gone ∧ d.received = c.received ∧ d.sent = c.sent := by
  cases hmoves with
  | offer hproducer => exact ⟨hgone, rfl, rfl⟩
  | send hproducer hslot hconsumer => exact absurd hgone hconsumer
  | refuse hproducer hgone => exact ⟨hgone, rfl, rfl⟩
  | finish hproducer => exact ⟨hgone, rfl, rfl⟩
  | receive hconsumer hslot => cases hgone.symm.trans hconsumer
  | conclude hconsumer hproducer hslot => cases hgone.symm.trans hconsumer
  | leave hconsumer => exact absurd hgone hconsumer

theorem Unbroken.refuse (hunbroken : c.Unbroken t) (hyields : t.Yields)
    (hmoves : c.Moves .refuse d) : d.Broken t ∧ d.world = c.world := by
  cases hmoves with
  | @refuse item sent refused hproducer hgone =>
      have hleads : t.Leads c.sent (.hand item c.world sent refused) :=
        rest_of_offering hproducer ▸ hunbroken.leads
      have hstops : refused.Stops c.world := by
        cases hleads.yields hyields with
        | hand hsent hrefused => exact hrefused
      refine ⟨⟨hgone, hstops, ?_, ?_, ?_⟩, rfl⟩
      · have hbegun : c.begun = c.sent ++ [item] := by
          rw [hunbroken.begun, offered, hproducer]
        have hlength := List.length_filterMap_le Except.toOption (c.sent ++ [item])
        rw [List.length_append, List.length_singleton] at hlength
        rw [hbegun]
        exact hlength
      · exact hleads.items ▸ List.prefix_append _ _
      · calc
          t.worldAfter c.sent.length = refused.worldAfter 0 := hleads.worldAfter 0
          _ = c.world := hstops.worldAfter 0

theorem Broken.move (hbroken : c.Broken t) (hmoves : c.Moves m d) :
    d.Broken t ∧ d.world = c.world := by
  have hstops := hbroken.stops
  cases hmoves with
  | @offer item world sent refused hproducer =>
      rw [rest_of_working hproducer] at hstops
      rcases hstops with hended | ⟨f, hlast⟩
      · cases hended
      · cases hlast
        refine ⟨⟨hbroken.gone, Or.inr ⟨f, rfl⟩, ?_, hbroken.sent, hbroken.world⟩, rfl⟩
        have hnone : messagesAmong [.error f] = [] := rfl
        rw [messagesAmong_append, hnone, List.append_nil]
        exact hbroken.begun
  | send hproducer hslot hconsumer => exact absurd hbroken.gone hconsumer
  | refuse hproducer hgone =>
      rw [rest_of_offering hproducer] at hstops
      rcases hstops with hended | ⟨f, hlast⟩
      · cases hended
      · cases hlast
        exact ⟨⟨hgone, Or.inl rfl, hbroken.begun, hbroken.sent, hbroken.world⟩, rfl⟩
  | finish hproducer =>
      rw [rest_of_working hproducer] at hstops
      rcases hstops with hended | ⟨f, hlast⟩
      · cases hended
        exact ⟨⟨hbroken.gone, Or.inl rfl, hbroken.begun, hbroken.sent, hbroken.world⟩, rfl⟩
      · cases hlast
  | receive hconsumer hslot => cases hbroken.gone.symm.trans hconsumer
  | conclude hconsumer hproducer hslot => cases hbroken.gone.symm.trans hconsumer
  | leave hconsumer => exact absurd hbroken.gone hconsumer

theorem Unbroken.move (hunbroken : c.Unbroken t) (hyields : t.Yields) (hmoves : c.Moves m d) :
    d.Unbroken t ∨ d.Broken t := by
  have hleads := hunbroken.leads
  have hbegun := hunbroken.begun
  cases hmoves with
  | offer hproducer =>
      rw [rest_of_working hproducer] at hleads
      rw [offered, hproducer, List.append_nil] at hbegun
      exact Or.inl ⟨hleads, congrArg (· ++ _) hbegun⟩
  | send hproducer hslot hconsumer =>
      rw [rest_of_offering hproducer] at hleads
      rw [offered, hproducer] at hbegun
      refine Or.inl ⟨hleads.send, ?_⟩
      rw [hbegun, offered, List.append_nil]
  | refuse hproducer hgone =>
      exact Or.inr (hunbroken.refuse hyields (.refuse hproducer hgone)).1
  | finish hproducer =>
      rw [rest_of_working hproducer] at hleads
      rw [offered, hproducer] at hbegun
      exact Or.inl ⟨hleads, hbegun⟩
  | receive hconsumer hslot => exact Or.inl ⟨hleads, hbegun⟩
  | conclude hconsumer hproducer hslot => exact Or.inl ⟨hleads, hbegun⟩
  | leave hconsumer => exact Or.inl ⟨hleads, hbegun⟩

theorem Sound.move (hsound : c.Sound t) (hyields : t.Yields) (hmoves : c.Moves m d) :
    d.Sound t := by
  have hcourse : d.Unbroken t ∨ d.Broken t := by
    rcases hsound.course with hunbroken | hbroken
    · exact hunbroken.move hyields hmoves
    · exact Or.inr (hbroken.move hmoves).1
  obtain ⟨-, harrived, hreceived, hahead, hended⟩ := hsound
  -- A consumer is not at the end while the read still has something to offer.
  have hopen : c.producer ≠ .done → c.consumer ≠ .atEnd := fun hne hend => hne (hended hend).1
  cases hmoves with
  | offer hproducer =>
      refine ⟨hcourse, harrived, hreceived, hahead, ?_⟩
      exact fun hend => absurd hend (hopen (by simp [hproducer]))
  | send hproducer hslot hconsumer =>
      have hall := harrived hconsumer
      rw [hslot, Option.toList_none, List.append_nil] at hall
      refine ⟨hcourse, ?_, ?_, ?_, ?_⟩
      · intro _
        rw [hall]
        rfl
      · exact hreceived.trans (List.prefix_append _ _)
      · exact Nat.le_of_eq (by rw [hall, List.length_append, List.length_singleton])
      · exact fun hend => absurd hend (hopen (by simp [hproducer]))
  | refuse hproducer hgone =>
      refine ⟨hcourse, harrived, hreceived, hahead, ?_⟩
      exact fun hend => absurd hend (hopen (by simp [hproducer]))
  | finish hproducer =>
      refine ⟨hcourse, harrived, hreceived, hahead, ?_⟩
      intro hend
      exact ⟨rfl, (hended hend).2⟩
  | receive hconsumer hslot =>
      have hall := harrived (by simp [hconsumer])
      rw [hslot, Option.toList_some] at hall
      refine ⟨hcourse, ?_, ?_, ?_, ?_⟩
      · intro _
        rw [Option.toList_none, List.append_nil, hall]
      · exact hall ▸ List.prefix_rfl
      · rw [hall]
        exact Nat.le_succ _
      · intro hend
        cases hconsumer.symm.trans hend
  | conclude hconsumer hproducer hslot =>
      refine ⟨hcourse, ?_, hreceived, hahead, fun _ => ⟨hproducer, hslot⟩⟩
      exact fun _ => harrived (by simp [hconsumer])
  | leave hconsumer =>
      refine ⟨hcourse, fun hstays => absurd rfl hstays, hreceived, hahead, ?_⟩
      intro hend
      cases hend

theorem sound_start (t : Task ω) (world : ω) : (Channel.start t world).Sound t where
  course := Or.inl ⟨.start, rfl⟩
  arrived _ := rfl
  received := List.prefix_rfl
  ahead := Nat.le_succ _
  ended hend := by cases hend

theorem Sound.refuse (hsound : c.Sound t) (hyields : t.Yields) (hmoves : c.Moves .refuse d) :
    d.Broken t ∧ d.world = c.world := by
  rcases hsound.course with hunbroken | hbroken
  · exact hunbroken.refuse hyields hmoves
  · exact hbroken.move hmoves

end Moves

section Sound

variable {t : Task ω} {c : Channel ω}

theorem Sound.sent_prefix (hsound : c.Sound t) : c.sent <+: t.items := by
  rcases hsound.course with hunbroken | hbroken
  · exact hunbroken.leads.items ▸ List.prefix_append _ _
  · exact hbroken.sent

/-- A consumer that has come to the end has received everything. -/
theorem Sound.received_of_atEnd (hsound : c.Sound t) (hend : c.consumer = .atEnd) :
    c.received = t.items := by
  obtain ⟨hdone, hslot⟩ := hsound.ended hend
  have hstays : c.consumer ≠ .gone := by simp [hend]
  have harrived := hsound.arrived hstays
  rw [hslot, Option.toList_none, List.append_nil] at harrived
  rcases hsound.course with hunbroken | hbroken
  · have hitems := hunbroken.leads.items
    have hrest : c.rest = .ended c.world := by rw [rest, hdone]
    rw [hrest, Task.items, List.append_nil] at hitems
    rw [harrived, hitems]
  · exact absurd hbroken.gone hstays

theorem Unbroken.begun_le (hunbroken : c.Unbroken t) : c.begun.length ≤ c.sent.length + 1 := by
  have hoffered : c.offered.length ≤ 1 := by
    unfold offered
    split <;> simp
  rw [hunbroken.begun, List.length_append]
  omega

/-- The read is at most two items ahead of a consumer that is still there, and at most two
messages ahead of one that is gone. -/
theorem Sound.begun_le (hsound : c.Sound t) :
    (c.consumer ≠ .gone → c.begun.length ≤ c.received.length + 2) ∧
      (messagesAmong c.begun).length ≤ c.received.length + 2 := by
  have hahead := hsound.ahead
  rcases hsound.course with hunbroken | hbroken
  · have hbegun := hunbroken.begun_le
    have hmessages : (messagesAmong c.begun).length ≤ c.begun.length :=
      List.length_filterMap_le _ _
    exact ⟨fun _ => by omega, by omega⟩
  · have hbegun := hbroken.begun
    exact ⟨fun hstays => absurd hbroken.gone hstays, by omega⟩

/-- A read that is done has left what it leaves when exactly the items sent are taken. -/
theorem Sound.world_of_done (hsound : c.Sound t) (hdone : c.producer = .done) :
    t.worldAfter c.sent.length = c.world := by
  rcases hsound.course with hunbroken | hbroken
  · have hrest : c.rest = .ended c.world := by rw [rest, hdone]
    have hworld := hunbroken.leads.worldAfter 0
    rwa [hrest] at hworld
  · exact hbroken.world

end Sound

section Run

variable {t : Task ω} {c d : Channel ω} {moves : List Move}

theorem Sound.run (hsound : c.Sound t) (hyields : t.Yields) (hrun : c.run? moves = some d) :
    d.Sound t :=
  run?_induction (P := fun c => c.Sound t) (fun hc hmoves => hc.move hyields hmoves) hsound hrun

theorem Broken.run_world (hbroken : c.Broken t) (hrun : c.run? moves = some d) :
    d.world = c.world :=
  (run?_induction (P := fun d => d.Broken t ∧ d.world = c.world)
    (fun hd hmoves => ⟨(hd.1.move hmoves).1, (hd.1.move hmoves).2.trans hd.2⟩)
    ⟨hbroken, rfl⟩ hrun).2

theorem run_of_gone (hgone : c.consumer = .gone) (hrun : c.run? moves = some d) :
    d.received = c.received ∧ d.sent = c.sent :=
  (run?_induction
    (P := fun d => d.consumer = .gone ∧ d.received = c.received ∧ d.sent = c.sent)
    (fun hd hmoves =>
      have hkept := hmoves.of_gone hd.1
      ⟨hkept.1, hkept.2.1.trans hd.2.1, hkept.2.2.trans hd.2.2⟩)
    ⟨hgone, rfl, rfl⟩ hrun).2

/-- There are moves that bring the consumer to the end. -/
def Completes (c : Channel ω) : Prop :=
  ∃ moves d, c.run? moves = some d ∧ d.consumer = .atEnd

theorem Completes.of_move {m : Move} (hmove : c.move? m = some d) (hcompletes : d.Completes) :
    c.Completes := by
  obtain ⟨moves, last, hrun, hend⟩ := hcompletes
  refine ⟨m :: moves, last, ?_, hend⟩
  rw [run?, hmove]
  exact hrun

theorem completes_of_offering {item : LazyItem} {sent refused : Task ω}
    (hconsumer : c.consumer = .listening) (hslot : c.slot = none)
    (hproducer : c.producer = .offering item sent refused)
    (hsent : ∀ d : Channel ω, d.consumer = .listening → d.slot = none →
      d.producer = .working sent → d.Completes) : c.Completes := by
  refine .of_move (m := .send) (d := { c with
    producer := .working sent, slot := some item, sent := c.sent ++ [item] })
    (by simp [move?, hconsumer, hslot, hproducer]) ?_
  refine .of_move (m := .receive) (d := { c with
    producer := .working sent, slot := none, sent := c.sent ++ [item],
    received := c.received ++ [item] }) (by simp [move?, hconsumer]) ?_
  exact hsent _ hconsumer rfl rfl

/-- A consumer that takes every item as soon as it is there comes to the end. -/
theorem completes_of_working (left : Task ω) (hconsumer : c.consumer = .listening)
    (hslot : c.slot = none) (hproducer : c.producer = .working left) : c.Completes := by
  induction left generalizing c with
  | ended world =>
      refine .of_move (m := .finish) (d := { c with producer := .done, world := world })
        (by simp only [move?, hproducer]) ?_
      refine .of_move (m := .conclude) (d := { c with
        producer := .done, world := world, consumer := .atEnd })
        (by simp only [move?, hconsumer, hslot]) ?_
      exact ⟨[], _, rfl, rfl⟩
  | hand item world sent refused ih _ =>
      refine .of_move (m := .offer) (d := { c with
        producer := .offering item sent refused, begun := c.begun ++ [item], world := world })
        (by simp only [move?, hproducer]) ?_
      exact completes_of_offering hconsumer hslot rfl (fun d => ih)

theorem completes_of_empty (hconsumer : c.consumer = .listening) (hslot : c.slot = none) :
    c.Completes := by
  cases hproducer : c.producer with
  | working left => exact completes_of_working left hconsumer hslot hproducer
  | offering item sent refused =>
      exact completes_of_offering hconsumer hslot hproducer
        (fun d => completes_of_working sent)
  | done =>
      refine .of_move (m := .conclude) (d := { c with consumer := .atEnd })
        (by simp only [move?, hconsumer, hproducer, hslot]) ?_
      exact ⟨[], _, rfl, rfl⟩

theorem completes_of_listening (hconsumer : c.consumer = .listening) : c.Completes := by
  cases hslot : c.slot with
  | none => exact completes_of_empty hconsumer hslot
  | some item =>
      refine .of_move (m := .receive) (d := { c with
        slot := none, received := c.received ++ [item] })
        (by simp only [move?, hconsumer, hslot]) ?_
      exact completes_of_empty hconsumer rfl

end Run

end Channel

/-- Only the last item of a run is a fault. -/
theorem Run.items_fault_last (r : Run ω) {before after : List LazyItem} {f : Fault}
    (hbegins : before ++ .error f :: after <+: r.items) : after = [] := by
  rw [Run.items] at hbegins
  generalize r.messages = messages at hbegins
  induction messages generalizing before with
  | nil =>
      have hlength := hbegins.length_le
      have hlast : r.result.lastFault?.toList.length ≤ 1 := by
        cases r.result.lastFault? <;> simp
      simp only [List.map_nil, List.nil_append, List.length_append, List.length_cons,
        List.length_map] at hlength
      exact List.eq_nil_of_length_eq_zero (by omega)
  | cons m messages ih =>
      cases before with
      | nil => cases (List.cons_prefix_cons.mp hbegins).1
      | cons first before => exact ih (List.cons_prefix_cons.mp hbegins).2

namespace Engine

/-- What every course of moves does on the channel of a read on demand. The world is any
that a source may act on, so a world that stays as it is means that nothing is read. -/
theorem channel_delivers (e : Engine ω) (config : Value) (catalog : ConfiguredCatalog)
    (state : Option SyncState) (world : ω) {moves : List Move} {c : Channel ω}
    (hrun : (e.channel config catalog state world).run? moves = some c) :
    c.received <+: e.readLazily config catalog state world ∧
    (c.consumer = .atEnd → c.received = e.readLazily config catalog state world) ∧
    (∀ before f after, c.received = before ++ .error f :: after → after = []) ∧
    c.sent.length ≤ c.received.length + 1 ∧
    (c.consumer ≠ .gone → c.begun.length ≤ c.received.length + 2) ∧
    (messagesAmong c.begun).length ≤ c.received.length + 2 ∧
    (c.consumer = .gone → ∀ more d, c.run? more = some d →
      d.received = c.received ∧ d.sent = c.sent) ∧
    (∀ before after b, moves = before ++ .refuse :: after →
      (e.channel config catalog state world).run? before = some b → c.world = b.world) ∧
    (c.producer = .done →
      let run := e.read config catalog state
        (.closingAfter c.sent.length Sink.consumerGone) world
      messagesAmong c.sent = run.messages ∧ c.world = run.world) ∧
    (c.consumer = .listening → ∃ more d, c.run? more = some d ∧ d.consumer = .atEnd) := by
  have hyields := (e.script config catalog state world).task_yields e.secrets
  have hitems : ((e.script config catalog state world).task e.secrets).items =
      e.readLazily config catalog state world :=
    (e.script config catalog state world).task_items e.secrets
  have hstart := Channel.sound_start ((e.script config catalog state world).task e.secrets) world
  have hsound := hstart.run hyields hrun
  have hsent := hsound.sent_prefix
  have hreceived := hsound.received.trans hsent
  rw [hitems] at hreceived
  refine ⟨hreceived, ?_, ?_, hsound.ahead, hsound.begun_le.1, hsound.begun_le.2, ?_, ?_, ?_,
    Channel.completes_of_listening⟩
  · intro hend
    rw [← hitems]
    exact hsound.received_of_atEnd hend
  · intro before f after hsplit
    exact (e.read config catalog state .unlimited world).items_fault_last (hsplit ▸ hreceived)
  · exact fun hgone more d => Channel.run_of_gone hgone
  · rintro before after b rfl hbefore
    rw [Channel.run?_append, hbefore, Option.bind_some, Channel.run?] at hrun
    obtain ⟨next, hrefuse, hafter⟩ := Option.bind_eq_some_iff.mp hrun
    obtain ⟨hbroken, hworld⟩ :=
      (hstart.run hyields hbefore).refuse hyields (Channel.moves_of_move? hrefuse)
    exact (hbroken.run_world hafter).trans hworld
  · intro hdone
    obtain ⟨hmessages, hworld⟩ :=
      (e.script config catalog state world).task_closing e.secrets c.sent.length
    rw [← List.prefix_iff_eq_take.mp hsent] at hmessages
    exact ⟨hmessages, (hsound.world_of_done hdone).symm.trans hworld⟩

end Engine

namespace OnDemandExample

/-- A stream of two records. The world counts the pulls. -/
def stream : DataStream Nat where
  name := "s"
  schema := defaultSchema
  incremental := none
  read _ pulled := ⟨[⟨.record [], pulled + 1⟩, ⟨.record [], pulled + 2⟩], pulled + 3⟩

def catalog : ConfiguredCatalog := ⟨[⟨stream.descriptor, .fullRefresh, none⟩]⟩

def engine : Engine Nat where
  source := ⟨"source", fun _ pulled => (.ok .passed, pulled), fun _ => .ok [stream]⟩
  secrets := .none
  policy := ⟨1⟩
  stamp := 0

/-- The consumer takes one message and goes away while the first record is offered. -/
def moves : List Move :=
  [.offer, .send, .offer, .receive, .send, .offer, .leave, .refuse, .finish]

def left : Channel Nat where
  producer := .done
  slot := none
  begun := [.ok (engine.info "Starting syncing source"), .ok (engine.info "Syncing stream: s"),
    .ok (engine.recordMessage "s" [])]
  sent := [.ok (engine.info "Starting syncing source"), .ok (engine.info "Syncing stream: s")]
  received := [.ok (engine.info "Starting syncing source")]
  consumer := .gone
  world := 1

theorem run_moves : (engine.channel .null catalog none 0).run? moves = some left := rfl

end OnDemandExample

open OnDemandExample in
/-- A consumer that goes away while the first record is offered: the second one is not read. -/
theorem Engine.channel_delivers_left :
    (engine.channel .null catalog none 0).run? moves = some left ∧
      left.received <+: engine.readLazily .null catalog none 0 ∧
      (messagesAmong left.begun).length ≤ left.received.length + 2 ∧
      (engine.read .null catalog none (.closingAfter 2 Sink.consumerGone) 0).world = 1 := by
  obtain ⟨hreceived, -, -, -, -, hbegun, -, -, hdone, -⟩ :=
    engine.channel_delivers .null catalog none 0 run_moves
  exact ⟨run_moves, hreceived, hbegun, (hdone rfl).2.symm⟩

end SourceSync.Sync
