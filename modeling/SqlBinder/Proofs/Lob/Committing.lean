import SqlBinder.Proofs.Lob.Finishing

/-!
What becomes visible of what is written through a handle. Between two tasks the content that is
committed is what the writers that were finished and the trims have made of it, as long as no
writer is finished while the pieces of one that was dropped are still pending: a commit takes
whatever is pending.
-/
namespace SqlBinder

open Operation Memory.Store
open Client (WritePart)

variable {σ : Type} {host : Host σ} {content : σ → LobContent} {l : LobLocator} {lob : Lob}
  {w w' : World σ}

/-- A task that was tried, how it ended, and the exchanges it made. -/
structure LobEpisode where
  task : LobTask
  outcome : Outcome Unit
  made : List Exchange

namespace LobEpisode

/-- Try a task. One that never ends is given up. -/
def tried (t : LobTask) : Operation σ Lob LobEpisode := fun host lob w =>
  (.done ⟨t, (t.run host lob w).1,
      (t.run host lob w).2.2.exchanges.drop w.exchanges.length⟩,
    (t.run host lob w).2.1, (t.run host lob w).2.2)

/-- Try tasks one behind the other. -/
def allTried : List LobTask → Operation σ Lob (List LobEpisode)
  | [] => pure []
  | t :: rest => do
    let e ← tried t
    return e :: (← allTried rest)

/-- A writer was finished. -/
def Finished (e : LobEpisode) : Prop := ∃ parts, e.task = .write parts true ∧ e.outcome = .done ()

/-- The content behind an episode: a writer that was finished has laid its data over it from the
beginning, and a trim that was answered has cut it. -/
def applied (d : LobData) (e : LobEpisode) : LobData :=
  match e.task with
  | .write parts true =>
    match e.outcome with
    | .done _ => overwrite d 1 (LobData.joined d.kind (LobWriter.blocks d.kind parts))
    | _ => d
  | .trim size =>
    match e.made with
    | [⟨.trimLob _ _, .done _⟩] => d.take size
    | _ => d
  | _ => d

/-- All exchanges of episodes. -/
def exchanges (es : List LobEpisode) : List Exchange := es.flatMap (·.made)

/-- Nothing is pending whenever an episode begins that is one of these. -/
def Clear (which : LobEpisode → Prop) : LobContent → List LobEpisode → Prop
  | _, [] => True
  | s, e :: rest => (which e → s.pending = none) ∧ Clear which (s.replay e.made) rest

/-- What an episode does to what is committed, it does with its last call. -/
structure Applies (s : LobContent) (e : LobEpisode) : Prop where
  meanwhile : ∀ n < e.made.length, (s.replay (e.made.take n)).committed = s.committed
  behind : (e.Finished → s.pending = none) → (s.replay e.made).committed = applied s.committed e

theorem kind_applied (d : LobData) (e : LobEpisode) : (applied d e).kind = d.kind := by
  unfold applied
  split
  · split
    · exact LobData.kind_overwrite _ _ _
    · rfl
  · split
    · exact LobData.kind_take _ _
    · rfl
  · rfl

theorem tried_of_run {t : LobTask} {out : Outcome Unit} {lob' : Lob} {made : List Exchange}
    (run : t.run host lob w = (out, lob', w'))
    (led : Led content LobContent.behind w w' made) :
    tried t host lob w = (.done ⟨t, out, made⟩, lob', w') := by
  rw [tried, run, led.drop_eq]

/-! ## One episode -/

theorem Applies.of_hidden {s : LobContent} {t : LobTask} {out : Outcome Unit}
    {made : List Exchange} (untrimmed : ∀ n, t ≠ .trim n)
    (unfinished : ∀ parts, t ≠ .write parts true)
    (hidden : ∀ x ∈ made, x.call.Hidden l) : Applies s ⟨t, out, made⟩ where
  meanwhile n _ := s.committed_replay fun x mem => hidden x (List.mem_of_mem_take mem)
  behind _ := by
    have same : applied s.committed ⟨t, out, made⟩ = s.committed := by
      unfold applied
      split
      · next parts eq => exact absurd eq (unfinished parts)
      · next n eq => exact absurd eq (untrimmed n)
      · rfl
    rw [same]
    exact s.committed_replay hidden

theorem Applies.of_trim {s : LobContent} {size : Nat} {out : Outcome Unit}
    {reply : Outcome Unit} : Applies s ⟨.trim size, out, [⟨.trimLob l size, reply⟩]⟩ where
  meanwhile n short := by
    obtain rfl : n = 0 := by simpa using short
    rfl
  behind _ := by cases reply <;> rfl

theorem Applies.of_finished {s : LobContent} {parts : List WritePart} {out : Outcome Unit}
    {hidden last : List Exchange} (leaves : ∀ x ∈ hidden, x.call.Hidden l)
    (ended : last = [] ∧ out ≠ .done () ∨ last = [⟨.commitLob l, out⟩])
    (sent : out = .done () → s.pending = none →
      (s.replay (hidden ++ last)).committed =
        overwrite s.committed 1
          (LobData.joined s.committed.kind (LobWriter.blocks s.committed.kind parts))) :
    Applies s ⟨.write parts true, out, hidden ++ last⟩ where
  meanwhile n short := by
    have most : last.length ≤ 1 := by
      rcases ended with ⟨rfl, -⟩ | rfl <;> simp
    have early : n ≤ hidden.length := by
      rw [List.length_append] at short
      omega
    rw [List.take_append_of_le_length early]
    exact s.committed_replay fun x mem => leaves x (List.mem_of_mem_take mem)
  behind clear := by
    cases out with
    | done u => exact sent rfl (clear ⟨parts, rfl, rfl⟩)
    | failed e => exact s.committed_undone leaves ended nofun
    | stuck => exact s.committed_undone leaves ended nofun

theorem lasting_located (l : LobLocator) : Lob.Lasting l fun lob => lob.locator = l where
  locator located := located
  moved located _ := located
  shut located := located
  sized _ located := located

/-- The data of a finished writer comes over what was committed, if nothing was pending. -/
theorem committed_of_sent {s : LobContent} {parts : List WritePart} {ps : List LobData}
    {wtr' : LobWriter} {made : List Exchange} (located : lob.locator = l)
    (kind : s.committed.kind = l.kind) (clear : s.pending = none)
    (sent : LobWriter.Sent (.make lob) wtr' w w' parts ps)
    (added : w'.exchanges = w.exchanges ++ made) :
    (s.replay made).committed =
      overwrite s.committed 1
        (LobData.joined s.committed.kind (LobWriter.blocks s.committed.kind parts)) := by
  subst located
  have whole : LobData.joined lob.kind ps =
      LobData.joined lob.kind (LobWriter.blocks lob.kind parts) := by
    have pieces := sent.joined
    have buffered := LobData.empty_append
      (LobData.joined lob.kind (LobWriter.blocks lob.kind parts))
    rw [LobData.kind_joined fun b mem => LobWriter.kind_of_mem_blocks mem] at buffered
    exact pieces.trans buffered
  have made_eq : made = writes lob.locator 1 ps ++ [⟨.commitLob lob.locator, .done ()⟩] := by
    have both := added.symm.trans sent.exchanges
    rw [List.append_assoc] at both
    exact List.append_cancel_left both
  rw [made_eq, LobContent.replay_append, kind]
  have object : lob.locator.kind = lob.kind := rfl
  rw [object, ← whole]
  by_cases none : ps = []
  · have same : overwrite s.committed 1 (LobData.joined lob.kind ps) = s.committed := by
      rw [none, LobData.joined, ← object, ← kind]
      exact LobData.overwrite_empty _
    rw [same, none]
    show s.pending.getD s.committed = s.committed
    rw [clear, Option.getD_none]
  · have base : s.pending.getD s.committed = s.committed := by rw [clear, Option.getD_none]
    rw [s.replay_writes (Nat.le_refl 1) none (by rw [base])
      fun p mem => (sent.kinds p mem).trans kind.symm, base, kind]
    rfl

/-- An episode of a handle makes calls for its object, and what it does to what is committed, it
does with the last of them. -/
theorem tried_applies (keeps : KeepsLob host l content) (located : lob.locator = l) (t : LobTask)
    (w : World σ) :
    ∃ e lob' w', tried t host lob w = (.done e, lob', w') ∧ e.task = t ∧ lob'.locator = l ∧
      Led content LobContent.behind w w' e.made ∧
      ((content w.session).committed.kind = l.kind → Applies (content w.session) e) := by
  have lasting := lasting_located l
  have quiet {t : LobTask} (untrimmed : ∀ n, t ≠ .trim n)
      (unfinished : ∀ parts, t ≠ .write parts true)
      (hides : Lob.Hides host content l (fun lob => lob.locator = l) (t.run (σ := σ))) :
      ∃ e lob' w', tried t host lob w = (.done e, lob', w') ∧ e.task = t ∧ lob'.locator = l ∧
        Led content LobContent.behind w w' e.made ∧
        ((content w.session).committed.kind = l.kind → Applies (content w.session) e) := by
    obtain ⟨located', made, led, hidden⟩ := hides lob w located
    exact ⟨_, _, _, tried_of_run rfl led, rfl, located', led,
      fun _ => .of_hidden untrimmed unfinished hidden⟩
  obtain rfl | ⟨n, rfl⟩ | ⟨parts, rfl⟩ | ⟨measured, untrimmed, unfinished⟩ := t.sorts
  · exact quiet nofun nofun (.bind (Lob.Hides.length keeps lasting fun _ located => located)
      fun _ => .pure _)
  · obtain ⟨out, lob', w', run, ⟨rfl, rfl⟩ | ⟨reply, led, kept⟩⟩ := Lob.trim_led keeps located n w
    · have led : Led content LobContent.behind w' w' [] := .refl w'
      exact ⟨_, _, _, tried_of_run run led, rfl, located, led, fun _ => ⟨nofun, fun _ => rfl⟩⟩
    · refine ⟨_, _, _, tried_of_run run led, rfl, ?_, led, fun _ => .of_trim⟩
      rcases kept with rfl | ⟨rfl, -⟩ <;> exact located
  · obtain ⟨out, lob', w', run, located', ⟨hidden, last, led, leaves, ended⟩, sent⟩ :=
      LobTask.finished keeps lasting located parts w
    refine ⟨_, _, _, tried_of_run run led, rfl, located', led, fun kind => ?_⟩
    refine .of_finished leaves ended fun done clear => ?_
    obtain ⟨wtr', ps, -, sent⟩ := sent done
    exact committed_of_sent located kind clear sent led.exchanges
  · exact quiet untrimmed unfinished
      (LobTask.run_hides keeps lasting measured untrimmed unfinished)

/-! ## Episodes one behind the other -/

/-- What is committed behind the first `n` exchanges of an episode that follows on others. -/
def committedAt (s : LobContent) (before : List LobEpisode) (e : LobEpisode) (n : Nat) : LobData :=
  (s.replay (exchanges before ++ e.made.take n)).committed

/-- At every moment of episodes the content that is committed is what those that have come to
their end have made of it, as long as nothing is pending whenever a writer begins that is
finished. -/
def Faithful (s : LobContent) (es : List LobEpisode) : Prop :=
  ∀ before e after, es = before ++ e :: after → Clear Finished s (before ++ [e]) →
    ∀ n ≤ e.made.length, committedAt s before e n =
      (if n < e.made.length then before else before ++ [e]).foldl applied s.committed

theorem Faithful.cons {s : LobContent} {e : LobEpisode} {es : List LobEpisode}
    (first : Applies s e) (rest : (s.replay e.made).committed = applied s.committed e →
      Faithful (s.replay e.made) es) : Faithful s (e :: es) := by
  intro before e' after eq clear n short
  cases before with
  | nil =>
    obtain ⟨rfl, -⟩ := List.cons_eq_cons.1 eq
    show (s.replay (e.made.take n)).committed = _
    split
    · next early => exact first.meanwhile n early
    · next late =>
      rw [List.take_of_length_le (Nat.le_of_not_lt late)]
      exact first.behind clear.1
  | cons b before =>
    obtain ⟨rfl, rfl⟩ := List.cons_eq_cons.1 eq
    have behind := first.behind clear.1
    have later := rest behind before e' after rfl clear.2 n short
    rw [behind] at later
    have moment : committedAt s (e :: before) e' n = committedAt (s.replay e.made) before e' n := by
      rw [committedAt, committedAt, ← LobContent.replay_append, exchanges, exchanges,
        List.flatMap_cons, List.append_assoc]
    rw [moment, later]
    split <;> rfl

theorem allTried_faithful (keeps : KeepsLob host l content) (located : lob.locator = l)
    (tasks : List LobTask) (w : World σ) :
    ∃ es lob' w', allTried tasks host lob w = (.done es, lob', w') ∧ es.map (·.task) = tasks ∧
      Led content LobContent.behind w w' (exchanges es) ∧
      ((content w.session).committed.kind = l.kind → Faithful (content w.session) es) := by
  induction tasks generalizing lob w with
  | nil =>
    refine ⟨[], lob, w, rfl, rfl, .refl w, fun _ before e after eq => ?_⟩
    cases before <;> cases eq
  | cons t rest ih =>
    obtain ⟨e, lob₁, w₁, tried, task, located₁, led₁, applies⟩ := tried_applies keeps located t w
    obtain ⟨es, lob', w', others, tasks_eq, led, faithful⟩ := ih located₁ w₁
    refine ⟨e :: es, lob', w', ?_, ?_, led₁.trans led, fun kind => ?_⟩
    · rw [allTried, bind_of_done tried, bind_of_done others]
      rfl
    · rw [List.map_cons, task, tasks_eq]
    · refine .cons (applies kind) fun behind => ?_
      have session : content w₁.session = (content w.session).replay e.made := led₁.session
      rw [← session] at behind ⊢
      refine faithful ?_
      rw [behind, kind_applied, kind]

end LobEpisode

open LobEpisode

/-- Whatever is done with a handle whose object nobody else changes, and whatever fails of it: as
long as no writer is finished while data of another is pending, the content that is committed is at
every moment what the trims have cut and the finished writers have laid over it, in order; data
of a writer that was dropped never becomes visible. -/
theorem Lob.committed_by_finished_writers (keeps : KeepsLob host lob.locator content)
    (kind : (content w.session).committed.kind = lob.kind) (tasks : List LobTask) :
    ∃ es lob' w', allTried tasks host lob w = (.done es, lob', w') ∧ es.map (·.task) = tasks ∧
      w'.exchanges = w.exchanges ++ exchanges es ∧
      content w'.session = (content w.session).replay (exchanges es) ∧
      Faithful (content w.session) es := by
  obtain ⟨es, lob', w', run, tasks_eq, led, faithful⟩ := allTried_faithful keeps rfl tasks w
  exact ⟨es, lob', w', run, tasks_eq, led.exchanges, led.session, faithful kind⟩

/-- The handle of a short text, with pieces of two characters. -/
def Lob.short : Lob := .make ⟨[1], .clob, 0, 2, false⟩ ⟨0⟩ ⟨1⟩

/-- A trim discards what a dropped writer has left, and nothing of that comes back. -/
theorem Lob.trim_discards_dropped_data :
    ∃ es lob' w', allTried [.write [.data (.text "abcd")] false, .trim 3,
        .write [.data (.text "x")] true] (Memory.Store.host 9) short
        (World.start (single short.locator (.text "hello"))) = (.done es, lob', w') ∧
      Clear Finished ⟨.text "hello", none⟩ es ∧
      (w'.session.content short.locator).committed = .text "xel" := by
  obtain ⟨es, lob', w', run, -, -, session, faithful⟩ :=
    Lob.committed_by_finished_writers (keepsLob 9 short.locator) rfl
      [.write [.data (.text "abcd")] false, .trim 3, .write [.data (.text "x")] true]
      (w := World.start (single short.locator (.text "hello")))
  obtain ⟨before, e, eq, clear, whole⟩ : ∃ before e, es = before ++ [e] ∧
      Clear Finished ⟨.text "hello", none⟩ (before ++ [e]) ∧
      (before ++ [e]).foldl applied (.text "hello") = .text "xel" := by
    cases run
    refine ⟨[_, _], _, rfl, ⟨fun _ => rfl, nofun, fun _ => rfl, trivial⟩, ?_⟩
    decide +kernel
  have last := faithful before e [] eq clear e.made.length (Nat.le_refl _)
  rw [if_neg (Nat.lt_irrefl _), committedAt, List.take_length] at last
  refine ⟨es, lob', w', run, eq ▸ clear, ?_⟩
  rw [session, eq, exchanges, List.flatMap_append, List.flatMap_singleton]
  exact last.trans whole

/-- Without the trim, the commit of the second writer takes what the first has left. -/
theorem Lob.dropped_data_becomes_visible :
    KeepsLob (Memory.Store.host 9) short.locator (Memory.Store.content short.locator) ∧
    ∃ es lob' w', allTried [.write [.data (.text "abcd")] false, .write [.data (.text "x")] true]
        (Memory.Store.host 9) short (World.start (single short.locator (.text ""))) =
          (.done es, lob', w') ∧
      (w'.session.content short.locator).committed = .text "xbcd" ∧
      es.foldl applied (.text "") = .text "x" := by
  refine ⟨keepsLob 9 short.locator, _, _, _, rfl, ?_, ?_⟩
  · decide +kernel
  · decide +kernel

end SqlBinder
