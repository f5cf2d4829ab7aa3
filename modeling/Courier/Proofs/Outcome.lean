import Mathlib.Logic.Relation
import Courier.Exchange.Course
import Courier.Proofs.Schedule

/-!
# The outcome of an exchange

When a service has answered, the outcome of the exchange is settled, unless the other side of its sink has a
say in it: a delivery goes like the one whose body is a reader of the units to come (`Body.Mirrors`), and that
one has no choice. So all orders of steps come to the same sink and the same log (`Exchange.outcome_unique`).
-/

namespace Courier

/-- The body, with a live stream replaced by a reader of its units and of those that its producer will send. -/
def Body.settled (chunks : List Bytes) (body : Body) : Body :=
  if body.isStream then .ofUnits (body.units chunks) else body

/-- A body, fed by this producer, and one without a producer that supplies the same units. Once it is not read
any more, any units will do. -/
inductive Body.Mirrors (chunks : List Bytes) (p : Producer) (reads : Bool) : Option Body → Option Body → Prop
  | none : Mirrors chunks p reads none none
  | same {body : Body} (hs : body.isStream = false) : Mirrors chunks p reads (some body) (some body)
  | units {body : Body} {units : List Bytes} (hs : body.isStream = true)
      (hf : reads = true → body.Feeds chunks p ∧ body.units p.rest = units) :
      Mirrors chunks p reads (some body) (some (.ofUnits units))

def Delivering.readsOn : Delivering → Bool
  | .opening _ => true
  | .copying c => c.state.readsOn
  | .awaiting | .diagnosing .. | .finished => false

namespace Body

variable {chunks : List Bytes} {p p' : Producer} {reads : Bool} {body body' : Body} {left right : Option Body}

theorem mirrors_settled (hn : ∀ ch, left = some (.stream ch) → ch.Offered) :
    Mirrors chunks { rest := chunks } true left (left.map (settled chunks)) := by
  cases left with
  | none => exact .none
  | some body =>
    cases hs : body.isStream with
    | false =>
      rw [Option.map_some, settled, hs, if_neg Bool.false_ne_true]
      exact .same hs
    | true =>
      rw [Option.map_some, settled, hs, if_pos rfl]
      match body, hs with
      | .stream ch, _ =>
        exact .units rfl fun _ => ⟨.new rfl fun other he => hn other (congrArg some he), rfl⟩

namespace Mirrors

theorem isSome_eq (h : Mirrors chunks p reads left right) : right.isSome = left.isSome := by
  cases h <;> rfl

theorem unread (h : Mirrors chunks p reads left right) : Mirrors chunks p false left right := by
  cases h with
  | none => exact .none
  | same hs => exact .same hs
  | units hs => exact .units hs fun hn => by cases hn

theorem release (h : Mirrors chunks p reads left right) :
    Mirrors chunks p false (left.map Body.release) (right.map Body.release) := by
  cases h with
  | none => exact .none
  | same hs => exact .same ((isStream_release _).trans hs)
  | units hs => exact .units ((isStream_release _).trans hs) fun hn => by cases hn

theorem feed (h : Mirrors chunks p reads (some body) right) (hs : p.feed? body = some (p', body')) :
    Mirrors chunks p' reads (some body') right := by
  obtain ⟨ch, ch', rfl, rfl, -⟩ := Producer.feed?_eq_some hs
  cases h with
  | same hn => cases hn
  | units hn hf =>
    refine .units rfl fun hr => ?_
    obtain ⟨hfeeds, hunits⟩ := hf hr
    obtain ⟨hfeeds', hunits'⟩ := hfeeds.feed hs
    exact ⟨hfeeds', hunits'.trans hunits⟩

end Mirrors

end Body

section

variable {σ : Type} [ResponseSink σ]

theorem Delivery.Advance.not_awaiting {d d' : Delivery σ} (ha : d.Advance d') : d'.state ≠ .awaiting := by
  cases ha <;> simp [finish]

/-- What a delivery does, it does with a body that supplies the same units. -/
theorem Body.Mirrors.advance {chunks : List Bytes} {p : Producer} {d d' : Delivery σ} {right : Option Body}
    (h : Mirrors chunks p d.state.readsOn d.body right) (ha : d.Advance d') :
    ∃ right', Delivery.Advance { d with body := right } { d' with body := right' } ∧
      Mirrors chunks p d'.state.readsOn d'.body right' := by
  cases ha with
  | headLost hd hw => exact ⟨right, .headLost hd hw, h.unread⟩
  | headSent hd hw hb =>
    rw [hd] at h
    exact ⟨right, .headSent hd hw (h.isSome_eq.trans hb), h⟩
  | headOnly hd hw hb =>
    rw [hb] at h
    cases h with
    | none =>
      refine ⟨Option.none, .headOnly hd hw rfl, ?_⟩
      simp only [Delivery.finish, hb, Option.map_none]
      exact .none
  | copy hd hb ha =>
    rw [hd, hb] at h
    cases h with
    | same hs => exact ⟨_, .copy hd rfl ha, .same (ha.isStream_eq.trans hs)⟩
    | units hs hf =>
      obtain ⟨units', ha', hf'⟩ := ha.on_units hs hf
      exact ⟨_, .copy hd rfl ha', .units (ha.isStream_eq.trans hs) hf'⟩
  | copied hd hc => exact ⟨_, .copied hd hc, h.release⟩
  | copyLost hd hc => exact ⟨_, .copyLost hd hc, h.release⟩
  | report hd hf => exact ⟨_, .report hd hf, h.release⟩

namespace Exchange

variable {service : Service} {request : Request} {sink : σ} {chunks : List Bytes} {x y z : Exchange σ}

/-- Whether a move is one of the service's or of the two parties' own. -/
def Move.IsOwn {σ : Type} (response : Response) : Move σ → Prop
  | .answer given => given = response
  | .deliver | .produce => True
  | .turn _ => False

/-- The delivery that goes on without a producer. -/
def settled {σ : Type} (service : Service) (request : Request) (sink : σ) (chunks : List Bytes) : Delivery σ :=
  { Delivery.serve service request sink with body := (service request).body.map (Body.settled chunks) }

/-- The exchange has not begun, or its delivery has gone like the settled one. -/
def Tied {σ : Type} [ResponseSink σ] (service : Service) (request : Request) (sink : σ) (chunks : List Bytes)
    (x : Exchange σ) : Prop :=
  x = arrive request sink chunks ∨ x.delivery.state ≠ .awaiting ∧ ∃ p right, x.producer = some p ∧
    Body.Mirrors chunks p x.delivery.state.readsOn x.delivery.body right ∧
    Relation.ReflTransGen Delivery.Advance (settled service request sink chunks) { x.delivery with body := right }

theorem Tied.move {move : Move σ} (h : x.Tied service request sink chunks)
    (hn : ∀ ch, (service request).body = some (.stream ch) → ch.Offered) (hm : move.IsOwn (service request))
    (hs : x.move? move = some y) : y.Tied service request sink chunks := by
  cases move with
  | answer response =>
    obtain ⟨hstate, hs⟩ := Option.ite_none_right_eq_some.1 hs
    cases hs
    have hm : response = service request := hm
    rcases h with rfl | ⟨hbegun, -⟩
    · -- the settled delivery begins here
      subst hm
      exact .inr ⟨by simp [Delivery.answer], _, _, rfl, Body.mirrors_settled hn, .refl⟩
    · exact absurd hstate hbegun
  | deliver =>
    obtain ⟨d, hd, rfl⟩ := Option.map_eq_some_iff.1 hs
    rcases h with rfl | ⟨-, p, right, hp, hmirrors, hpath⟩
    · cases hd
    · have ha := Delivery.advance_of_step? hd
      obtain ⟨right', ha', hmirrors'⟩ := hmirrors.advance ha
      exact .inr ⟨ha.not_awaiting, p, right', hp, hmirrors', hpath.tail ha'⟩
  | produce =>
    obtain ⟨q, body, p', body', hq, hb, hfeed, rfl⟩ := produce?_eq_some hs
    rcases h with rfl | ⟨hbegun, p, right, hp, hmirrors, hpath⟩
    · cases hb
    · rw [hp] at hq
      cases hq
      rw [hb] at hmirrors
      exact .inr ⟨hbegun, p', right, rfl, hmirrors.feed hfeed, hpath⟩
  | turn sink => exact hm.elim

theorem Tied.run {moves : List (Move σ)} (h : x.Tied service request sink chunks)
    (hn : ∀ ch, (service request).body = some (.stream ch) → ch.Offered)
    (hm : ∀ move ∈ moves, move.IsOwn (service request)) (hr : x.run? moves = some y) :
    y.Tied service request sink chunks := by
  induction moves generalizing x with
  | nil =>
    cases hr
    exact h
  | cons move moves ih =>
    simp only [run?, List.foldlM_cons, Option.bind_eq_bind, Option.bind_eq_some_iff] at hr
    obtain ⟨x₁, hs, hr⟩ := hr
    obtain ⟨hmove, hmoves⟩ := List.forall_mem_cons.1 hm
    exact ih (h.move hn hmove hs) hmoves hr

end Exchange

theorem Delivery.eq_of_finished {first d e : Delivery σ} (hd : Relation.ReflTransGen Advance first d)
    (he : Relation.ReflTransGen Advance first e) (hdf : d.isFinished = true) (hef : e.isFinished = true) :
    d = e := by
  have hunique : Relator.RightUnique (Advance (σ := σ)) := by
    intro a b c hb hc
    exact Option.some.inj ((step?_of_advance hb).symm.trans (step?_of_advance hc))
  have hlast {a b : Delivery σ} (ha : a.isFinished = true) (h : Relation.ReflTransGen Advance a b) : a = b := by
    rcases Relation.ReflTransGen.cases_head h with rfl | ⟨c, hc, -⟩
    · rfl
    · rw [hc.not_finished] at ha
      cases ha
  rcases Relation.ReflTransGen.total_of_right_unique hunique hd he with h | h
  · exact hlast hdf h
  · exact (hlast hef h).symm

/-- When a service has answered, with a live stream only if one writer is left of it, and the other side of the
sink makes no moves, all orders of steps that finish leave the same sink and the same log. -/
theorem Exchange.outcome_unique {service : Service} {request : Request} {sink : σ} {chunks : List Bytes}
    {x y : Exchange σ} {moves others : List (Move σ)}
    (hn : ∀ ch, (service request).body = some (.stream ch) → ch.Offered)
    (hm : ∀ move ∈ moves, move.IsOwn (service request)) (ho : ∀ move ∈ others, move.IsOwn (service request))
    (hx : (arrive request sink chunks).run? moves = some x)
    (hy : (arrive request sink chunks).run? others = some y)
    (hxf : x.delivery.isFinished = true) (hyf : y.delivery.isFinished = true) :
    x.delivery.sink = y.delivery.sink ∧ x.delivery.events = y.delivery.events := by
  have hfinished {z : Exchange σ} {path : List (Move σ)} (hm : ∀ move ∈ path, move.IsOwn (service request))
      (hz : (arrive request sink chunks).run? path = some z) (hf : z.delivery.isFinished = true) :
      ∃ right, Relation.ReflTransGen Delivery.Advance (settled service request sink chunks)
        { z.delivery with body := right } := by
    rcases (show (arrive request sink chunks).Tied service request sink chunks from .inl rfl).run hn hm hz with
      rfl | ⟨-, p, right, -, -, hpath⟩
    · cases hf
    · exact ⟨right, hpath⟩
  obtain ⟨left, hleft⟩ := hfinished hm hx hxf
  obtain ⟨right, hright⟩ := hfinished ho hy hyf
  obtain ⟨-, -, -, hsink, -, -, hevents⟩ := Delivery.mk.inj (Delivery.eq_of_finished hleft hright hxf hyf)
  exact ⟨hsink, hevents⟩

end

end Courier
