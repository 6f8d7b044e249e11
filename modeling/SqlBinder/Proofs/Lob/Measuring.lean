import SqlBinder.Proofs.Lob.Committing

/-!
The length that a handle knows. It is learned from the locator or from the session, and forgotten
when a piece is sent or the content is cut; what is committed changes only later, with a commit.
So the length is right as long as no writer that has sent nothing commits what another has left
behind.
-/
namespace SqlBinder

open Operation Memory.Store LobEpisode
open Client (WritePart)

variable {σ : Type} {host : Host σ} {content : σ → LobContent} {l : LobLocator} {g : Guards}
  {lob lob' : Lob} {w w' : World σ}

/-- The session measures what is committed of an object. -/
def MeasuresLob (host : Host σ) (l : LobLocator) (content : σ → LobContent) : Prop :=
  ∀ s n, (host.answer (.measureLob l) s).result.1 = .done n → n = (content s).committed.size

/-- The session in memory does. -/
theorem Memory.Store.measuresLob (patience : Nat) (l : LobLocator) :
    MeasuresLob (Memory.Store.host patience) l (Memory.Store.content l) := by
  intro s n measured
  let counted : Memory.Store := { s with called := Method.ofCall (.measureLob l) :: s.called }
  have normal (told : outcome (counted.respond (.measureLob l)).1 = .done n) :
      n = (s.content l).committed.size := by
    have same : counted.content l = s.content l := rfl
    rw [← same]
    cases found : counted.lob? l with
    | error e => simp [respond, reply, found, outcome, bind, Except.bind] at told
    | ok o =>
      rw [content_of_lob? found]
      simpa [respond, reply, found, outcome, bind, Except.bind, pure, Except.pure, eq_comm]
        using told
  have answered : (Memory.Store.answer (.measureLob l) s).result.1 = .done n := measured
  simp only [Memory.Store.answer] at answered
  split at answered
  · rw [atOnce, result_answered] at answered
    exact normal answered
  · cases answered
  · cases answered
  · rw [result_answered] at answered
    exact normal answered
  · rw [atOnce, result_answered] at answered
    exact normal answered
  · rw [atOnce, result_answered] at answered
    exact normal answered

namespace Lob

/-- The length is not known, or it is this. -/
def Knows (k : Nat) (lob : Lob) : Prop :=
  ∀ p n, lob.position = some p → p.length = some n → n = k

/-- A handle of the object that is over, or knows no other length than what is committed has. -/
structure Coherent (content : σ → LobContent) (l : LobLocator) (g : Guards) (lob : Lob)
    (w : World σ) : Prop where
  locator : lob.locator = l
  guards : lob.guards = g
  length : g.Stopped w.signals ∨ lob.Knows (content w.session).committed.size

theorem knows_forgetLength (lob : Lob) (k : Nat) : lob.forgetLength.Knows k := by
  intro p n there known
  obtain ⟨q, -, rfl⟩ := Option.map_eq_some_iff.1 there
  cases known

namespace Coherent

variable (coherent : Coherent content l g lob w)

include coherent

/-- What is committed stays as it is. -/
theorem later (grown : w.signals.Grown w'.signals)
    (same : (content w'.session).committed = (content w.session).committed) :
    Coherent content l g lob w' where
  locator := coherent.locator
  guards := coherent.guards
  length := by
    rw [same]
    exact coherent.length.imp_left fun stopped => stopped.grown grown

theorem stopped (ended : g.Stopped w'.signals) : Coherent content l g lob w' :=
  ⟨coherent.locator, coherent.guards, .inl ended⟩

theorem forgotten : Coherent content l g lob.forgetLength w' :=
  ⟨coherent.locator, coherent.guards, .inr (knows_forgetLength lob _)⟩

omit coherent in
/-- What leaves the length as it is, or forgets it. -/
theorem lasting (content : σ → LobContent) (l : LobLocator) (g : Guards) (w : World σ) :
    Lasting l fun lob => Coherent content l g lob w where
  locator h := h.locator
  moved h keeps := by
    refine ⟨h.locator, h.guards, h.length.imp_right fun knows p n there known => ?_⟩
    obtain ⟨q, there', rfl⟩ := Option.map_eq_some_iff.1 there
    rcases keeps q with same | none
    · exact knows q n there' (same ▸ known)
    · rw [none] at known
      cases known
  shut h := ⟨h.locator, h.guards, .inr nofun⟩
  sized _ h := ⟨h.locator, h.guards, h.length⟩

end Coherent

/-- A length that was asked for is that of what is committed. -/
theorem measured (measures : MeasuresLob host l content) {n : Nat} {closed : Error} {η : Type}
    {h h' : η} (run : guarded g closed (.measureLob l) host h w = (.done n, h', w')) :
    n = (content w.session).committed.size := by
  rw [guarded_apply] at run
  split at run
  · cases run
  · rw [call_apply] at run
    rcases await_ends (host.answer (.measureLob l) w.session) ⟨none, g.stops closed⟩ w with
      ⟨e, failed, -⟩ | ⟨outcome, -⟩
    · rw [failed] at run
      cases run
    · rw [outcome] at run
      exact measures w.session n (congrArg Prod.fst run)

/-- A length that is returned is that of what is committed, and may be known from then on. -/
theorem length_coherent (keeps : KeepsLob host l content) (measures : MeasuresLob host l content)
    (coherent : Coherent content l g lob w) :
    Coherent content l g (Lob.length host lob w).2.1 (Lob.length host lob w).2.2 ∧
      ∀ n, (Lob.length host lob w).1 = .done n →
        n = (content (Lob.length host lob w).2.2.session).committed.size := by
  obtain ⟨rfl, rfl, known⟩ := id coherent
  rw [Lob.length, bind_apply, open?_apply]
  cases stopped : firstFired w.signals (lob.guards.stops .lobClosed) with
  | some e => exact ⟨coherent, nofun⟩
  | none =>
    cases there : lob.position with
    | none => exact ⟨coherent, nofun⟩
    | some p =>
      dsimp only
      cases length : p.length with
      | some n =>
        have knows : lob.Knows (content w.session).committed.size := by
          refine known.resolve_left fun ended => ?_
          obtain ⟨e, fired⟩ := Guards.stops_some .lobClosed ended
          rw [stopped] at fired
          cases fired
        refine ⟨coherent, fun m returned => ?_⟩
        cases returned
        exact knows p n there length
      | none =>
        simp only [bind_apply, get_apply, roundTrip]
        rcases keeps.moves.guarded (.hidden .measure) lob.guards .lobClosed lob w with
          ⟨e, -, refused⟩ | ⟨reply, w₁, made, led⟩
        · rw [refused]
          exact ⟨coherent, nofun⟩
        · rw [made]
          have same : (content w₁.session).committed = (content w.session).committed := by
            rw [led.session]
            exact LobContent.committed_behind _ .measure
          cases reply with
          | failed e => exact ⟨coherent.later led.grown same, nofun⟩
          | stuck => exact ⟨coherent.later led.grown same, nofun⟩
          | done n =>
            have size : n = (content w₁.session).committed.size := by
              rw [same]
              exact measured measures made
            dsimp only
            rw [open?_apply, there]
            cases stopped₁ : firstFired w₁.signals (lob.guards.stops .lobClosed) with
            | some e => exact ⟨coherent.stopped (Guards.stopped_of_stops stopped₁), nofun⟩
            | none =>
              refine ⟨⟨rfl, rfl, .inr fun q m there' length' => ?_⟩, fun m returned => ?_⟩
              · obtain ⟨q, -, rfl⟩ := Option.map_eq_some_iff.1 there'
                cases length'
                exact size
              · cases returned
                exact size

end Lob

namespace LobEpisode

/-- A writer was finished that was given nothing that it takes. -/
def Void (kind : LobKind) (e : LobEpisode) : Prop :=
  ∃ parts, e.task = .write parts true ∧ e.outcome = .done () ∧ LobWriter.blocks kind parts = []

/-- A writer that sent something has forgotten the length; one that sent nothing has committed
nothing, unless something was pending. -/
theorem coherent_of_sent {parts : List WritePart} {ps : List LobData} {wtr' : LobWriter}
    (coherent : Lob.Coherent content l g lob w)
    (sent : LobWriter.Sent (.make lob) wtr' w w' parts ps) {made : List Exchange}
    (led : Led content LobContent.behind w w' made)
    (clear : LobWriter.blocks l.kind parts = [] → (content w.session).pending = none) :
    Lob.Coherent content l g wtr'.lob w' := by
  obtain rfl := coherent.locator
  by_cases none : ps = []
  · have last : wtr'.lob = lob := by rw [sent.lob, if_pos none, LobWriter.make]
    have commit : made = [⟨.commitLob lob.locator, .done ()⟩] := by
      have added := sent.exchanges
      rw [none, writes, List.append_nil] at added
      exact led.made_eq added
    rw [last]
    refine coherent.later led.grown ?_
    rw [led.session, commit]
    show (content w.session).pending.getD (content w.session).committed = _
    rw [clear (sent.none_sent none rfl).1, Option.getD_none]
  · rw [sent.lob, if_neg none]
    exact coherent.forgotten

theorem tried_coherent (keeps : KeepsLob host l content) (measures : MeasuresLob host l content)
    (coherent : Lob.Coherent content l g lob w) (t : LobTask) :
    ∃ e lob' w', tried t host lob w = (.done e, lob', w') ∧ e.task = t ∧
      Led content LobContent.behind w w' e.made ∧
      ((e.Void l.kind → (content w.session).pending = none) →
        Lob.Coherent content l g lob' w') := by
  have lasting := Lob.Coherent.lasting content l g w
  obtain rfl | ⟨n, rfl⟩ | ⟨parts, rfl⟩ | ⟨measured, untrimmed, unfinished⟩ := t.sorts
  · obtain ⟨-, made, led, -⟩ := Lob.Hides.length keeps (lasting_located l)
      (fun _ located => located) lob w coherent.locator
    have coherent' := (Lob.length_coherent keeps measures coherent).1
    have same : (LobTask.length.run host lob w).2 = (Lob.length host lob w).2 :=
      bind_pure_snd Lob.length fun _ => ()
    rcases run : LobTask.length.run host lob w with ⟨out, lob', w'⟩
    rw [run] at same
    rw [← same] at coherent' led
    exact ⟨_, _, _, tried_of_run run led, rfl, led, fun _ => coherent'⟩
  · obtain ⟨out, lob', w', run, ⟨rfl, rfl⟩ | ⟨reply, led, kept⟩⟩ :=
      Lob.trim_led keeps coherent.locator n w
    · have led : Led content LobContent.behind w' w' [] := .refl w'
      exact ⟨_, _, _, tried_of_run run led, rfl, led, fun _ => coherent⟩
    · refine ⟨_, _, _, tried_of_run run led, rfl, led, fun _ => ?_⟩
      rcases kept with rfl | ⟨rfl, refused | ended⟩
      · exact coherent.forgotten
      · refine coherent.later led.grown ?_
        rw [led.session]
        cases reply with
        | done u => exact absurd rfl refused
        | failed e => rfl
        | stuck => rfl
      · rw [coherent.guards] at ended
        exact coherent.stopped ended
  · obtain ⟨out, lob', w', run, coherent', ⟨hidden, last, led, leaves, ended⟩, sent⟩ :=
      LobTask.finished keeps lasting coherent parts w
    refine ⟨_, _, _, tried_of_run run led, rfl, led, fun clear => ?_⟩
    by_cases done : out = .done ()
    · obtain ⟨wtr', ps, left, all⟩ := sent done
      rw [left]
      exact coherent_of_sent coherent all led fun void => clear ⟨parts, rfl, done, void⟩
    · refine coherent'.later led.grown ?_
      rw [led.session]
      exact LobContent.committed_undone _ leaves ended done
  · obtain ⟨coherent', made, led, hidden⟩ :=
      LobTask.run_hides keeps lasting measured untrimmed unfinished lob w coherent
    rcases run : t.run host lob w with ⟨out, lob', w'⟩
    rw [run] at coherent' led
    refine ⟨_, _, _, tried_of_run run led, rfl, led, fun _ => coherent'.later led.grown ?_⟩
    rw [led.session]
    exact LobContent.committed_replay _ hidden

theorem allTried_coherent (keeps : KeepsLob host l content)
    (measures : MeasuresLob host l content) (coherent : Lob.Coherent content l g lob w)
    {tasks : List LobTask} {es : List LobEpisode}
    (run : allTried tasks host lob w = (.done es, lob', w'))
    (clear : Clear (Void l.kind) (content w.session) es) : Lob.Coherent content l g lob' w' := by
  induction tasks generalizing lob w es with
  | nil =>
    cases run
    exact coherent
  | cons t rest ih =>
    obtain ⟨e, lob₁, w₁, tried, -, led, kept⟩ := tried_coherent keeps measures coherent t
    rw [allTried, bind_of_done tried] at run
    obtain ⟨es', lob₂, w₂, others, ended⟩ := bind_done run
    cases ended
    refine ih (kept clear.1) others ?_
    rw [led.session]
    exact clear.2

end LobEpisode

/-- Whatever was done with a handle that was opened with the right length, and whatever failed of
it: a length that it returns is that of what is committed, as long as no writer that was given
nothing was finished while data of another was pending. -/
theorem Lob.length_returns_committed_size (keeps : KeepsLob host l content)
    (measures : MeasuresLob host l content) (size : l.size = (content w.session).committed.size)
    (own connection : Signal) (tasks : List LobTask) :
    ∃ es lob' w', allTried tasks host (.make l own connection) w = (.done es, lob', w') ∧
      es.map (·.task) = tasks ∧
      w'.exchanges = w.exchanges ++ exchanges es ∧
      content w'.session = (content w.session).replay (exchanges es) ∧
      (Clear (Void l.kind) (content w.session) es → ∀ n lob'' w'',
        Lob.length host lob' w' = (.done n, lob'', w'') →
          n = (content w''.session).committed.size) := by
  have located : (Lob.make l own connection).locator = l := rfl
  obtain ⟨es, lob', w', run, tasks_eq, led, -⟩ := allTried_faithful keeps located tasks w
  refine ⟨es, lob', w', run, tasks_eq, led.exchanges, led.session, fun clear => ?_⟩
  have opened : Coherent content l ⟨own, connection⟩ (.make l own connection) w := by
    refine ⟨rfl, rfl, .inr fun p n there known => ?_⟩
    cases there
    cases known
    exact size
  have coherent := allTried_coherent keeps measures opened run clear
  intro n lob'' w'' returned
  have right := (length_coherent keeps measures coherent).2 n
  rw [returned] at right
  exact right rfl

/-- Behind a writer that was finished and one that was dropped, the length is asked for anew. -/
theorem Lob.length_behind_dropped_writer :
    ∃ es lob' w' lob'' w'', allTried [.write [.data (.text "abc")] true,
        .write [.data (.text "defg")] false] (Memory.Store.host 9) short
        (World.start (single short.locator (.text ""))) = (.done es, lob', w') ∧
      Lob.length (Memory.Store.host 9) lob' w' = (.done 3, lob'', w'') ∧
      3 = (w''.session.content short.locator).committed.size := by
  obtain ⟨es, lob', w', run, -, -, -, right⟩ :=
    Lob.length_returns_committed_size (keepsLob 9 short.locator) (measuresLob 9 short.locator)
      (w := World.start (single short.locator (.text ""))) rfl ⟨0⟩ ⟨1⟩
      [.write [.data (.text "abc")] true, .write [.data (.text "defg")] false]
  obtain ⟨clear, lob'', w'', returned⟩ : Clear (Void .clob) ⟨.text "", none⟩ es ∧
      ∃ lob'' w'', Lob.length (Memory.Store.host 9) lob' w' = (.done 3, lob'', w'') := by
    cases run
    exact ⟨⟨fun _ => rfl, nofun, trivial⟩, _, _, rfl⟩
  exact ⟨es, lob', w', lob'', w'', run, returned, right clear 3 lob'' w'' returned⟩

/-- A commit of what a dropped writer has left changes the length behind the handle's back. -/
theorem Lob.length_missed_by_empty_writer :
    KeepsLob (Memory.Store.host 9) short.locator (Memory.Store.content short.locator) ∧
    MeasuresLob (Memory.Store.host 9) short.locator (Memory.Store.content short.locator) ∧
    ∃ es lob' w' lob'' w'', allTried [.write [.data (.text "ab")] false, .length, .write [] true]
        (Memory.Store.host 9) short (World.start (single short.locator (.text ""))) =
          (.done es, lob', w') ∧
      Lob.length (Memory.Store.host 9) lob' w' = (.done 0, lob'', w'') ∧
      (w''.session.content short.locator).committed.size = 2 :=
  ⟨keepsLob 9 short.locator, measuresLob 9 short.locator, _, _, _, _, _, rfl, rfl, rfl⟩

end SqlBinder
