import SqlBinder.Proofs.Lob.Blocks
import SqlBinder.Proofs.Session.Tracking
import SqlBinder.Session.Memory

/-!
What a session keeps of an object. Data that is written lies over the content and stays pending
until it is committed; a trim or the end of the handle discards it. The content that is committed
changes with trims and commits only, and pieces written one behind the other come to the same as
all their data at once.
-/
namespace SqlBinder

open Operation Memory.Store

/-! ## Data laid over content -/

namespace LobData

variable {d e f : LobData} {n : Nat}

theorem take_all (short : d.size ≤ n) : d.take n = d := by
  cases d with
  | text s =>
    have short : s.toList.length ≤ n := by rwa [String.length_toList]
    rw [take, List.take_of_length_le short, String.ofList_toList]
  | bytes b => rw [take, List.take_of_length_le short]

@[simp] theorem drop_zero (d : LobData) : d.drop 0 = d := by
  cases d <;> simp [drop]

@[simp] theorem take_zero (d : LobData) : d.take 0 = empty d.kind := by
  cases d <;> rfl

/-- Behind the first part, the second is cut. -/
theorem drop_append_right (alike : d.kind = e.kind) (n : Nat) :
    (d.append e).drop (d.size + n) = e.drop n := by
  cases d with
  | text s =>
    cases e with
    | text t => simp [append, drop, size, ← String.length_toList]
    | bytes c => cases alike
  | bytes b =>
    cases e with
    | text t => cases alike
    | bytes c => simp [append, drop, size]

theorem drop_drop (m n : Nat) (d : LobData) : (d.drop m).drop n = d.drop (m + n) := by
  cases d <;> simp [drop]

@[simp] theorem kind_padding (kind : LobKind) (n : Nat) : (padding kind n).kind = kind := by
  cases kind <;> rfl

@[simp] theorem size_padding (kind : LobKind) (n : Nat) : (padding kind n).size = n := by
  cases kind <;> simp [padding, size]

theorem padding_zero (kind : LobKind) : padding kind 0 = empty kind := by
  cases kind <;> rfl

@[simp] theorem kind_overwrite (base : LobData) (offset : Nat) (data : LobData) :
    (overwrite base offset data).kind = base.kind := by
  simp [overwrite]

/-- Empty data at the beginning changes nothing. -/
theorem overwrite_empty (base : LobData) : overwrite base 1 (empty base.kind) = base := by
  have none : (empty base.kind).append (empty base.kind) = empty base.kind := by
    have same := append_empty (empty base.kind)
    rwa [kind_empty] at same
  simp [overwrite, padding_zero, none]

/-- Content up to an offset, with padding if it ends before that. -/
theorem size_upTo (base : LobData) (start : Nat) :
    ((base.take start).append (padding base.kind (start - base.size))).size = start := by
  rw [size_append (by simp), size_take, size_padding]
  omega

/-- Data that follows on other data is laid over the content together with it. -/
theorem overwrite_overwrite {base p q : LobData} {offset : Nat} (positive : 1 ≤ offset)
    (hp : p.kind = base.kind) (hq : q.kind = base.kind) :
    overwrite (overwrite base offset p) (offset + p.size) q =
      overwrite base offset (p.append q) := by
  obtain ⟨start, rfl⟩ : ∃ start, offset = start + 1 := ⟨offset - 1, by omega⟩
  let upTo := (base.take start).append (padding base.kind (start - base.size))
  let front := upTo.append p
  let rest := base.drop (start + p.size)
  have upTo_kind : upTo.kind = base.kind := by simp [upTo]
  have front_kind : front.kind = base.kind := by simp [front, upTo]
  have front_size : front.size = start + p.size := by
    rw [size_append (upTo_kind.trans hp.symm), size_upTo]
  have alike : front.kind = rest.kind := by rw [front_kind, kind_drop]
  have first : overwrite base (start + 1) p = front.append rest := rfl
  have whole : (front.append rest).size = start + p.size + rest.size := by
    rw [size_append alike, front_size]
  have kept : (front.append rest).take (start + p.size) = front := by
    rw [take_append alike (by omega), take_all (by omega)]
  have filled : padding (front.append rest).kind (start + p.size - (front.append rest).size) =
      empty front.kind := by
    rw [whole, Nat.sub_eq_zero_of_le (Nat.le_add_right _ _), padding_zero, kind_append]
  have left : (front.append rest).drop (start + p.size + q.size) =
      base.drop (start + (p.size + q.size)) := by
    rw [← front_size, drop_append_right alike, drop_drop, Nat.add_assoc]
  have both : (p.append q).size = p.size + q.size := size_append (hp.trans hq.symm)
  calc overwrite (overwrite base (start + 1) p) (start + 1 + p.size) q
      = (front.append q).append (base.drop (start + (p.size + q.size))) := by
        have shift : start + 1 + p.size - 1 = start + p.size := by omega
        rw [first, overwrite]
        simp only [shift]
        rw [kept, filled, append_empty, left]
    _ = (upTo.append (p.append q)).append (base.drop (start + (p.size + q.size))) := by
        rw [append_assoc (upTo_kind.trans hp.symm) (hp.trans hq.symm)]
    _ = overwrite base (start + 1) (p.append q) := by
        rw [overwrite]
        simp only [Nat.add_sub_cancel, both]
        rfl

end LobData

/-! ## What a session keeps -/

/-- What is kept of an object. -/
structure LobContent where
  committed : LobData
  /-- Content with what was written since, until it is committed or discarded. -/
  pending : Option LobData

namespace LobContent

/-- What a call that succeeds does to its object. -/
def taking (s : LobContent) : Call → LobContent
  | .writeLob _ offset data =>
    { s with pending := some (overwrite (s.pending.getD s.committed) offset data) }
  | .trimLob _ size => ⟨s.committed.take size, none⟩
  | .commitLob _ => ⟨s.pending.getD s.committed, none⟩
  | .closeLob _ => { s with pending := none }
  | _ => s

/-- The content behind an exchange. A call that does not succeed changes nothing. -/
def behind (s : LobContent) : Exchange → LobContent
  | ⟨c, .done _⟩ => s.taking c
  | _ => s

/-- The content behind exchanges. -/
def replay (s : LobContent) (made : List Exchange) : LobContent := made.foldl behind s

@[simp] theorem replay_nil (s : LobContent) : s.replay [] = s := rfl

theorem replay_append (s : LobContent) (xs ys : List Exchange) :
    s.replay (xs ++ ys) = (s.replay xs).replay ys :=
  List.foldl_append

end LobContent

/-- Calls for an object that leave what is committed of it. -/
inductive Call.Hidden (l : LobLocator) : Call → Prop
  | read (offset amount : Nat) : Hidden l (.readLob l offset amount)
  | write (offset : Nat) (data : LobData) : Hidden l (.writeLob l offset data)
  | measure : Hidden l (.measureLob l)
  | close : Hidden l (.closeLob l)

/-- All calls for an object. -/
inductive Call.Concerns (l : LobLocator) : Call → Prop
  | hidden {c : Call} (hidden : c.Hidden l) : Concerns l c
  | trim (size : Nat) : Concerns l (.trimLob l size)
  | commit : Concerns l (.commitLob l)

namespace LobContent

variable {l : LobLocator} {made : List Exchange}

theorem committed_behind (s : LobContent) {x : Exchange} (hidden : x.call.Hidden l) :
    (s.behind x).committed = s.committed := by
  obtain ⟨c, _ | _ | _⟩ := x
  · obtain ⟨⟩ := hidden <;> rfl
  · rfl
  · rfl

/-- What is committed stays as it is behind calls that leave it. -/
theorem committed_replay (s : LobContent) (hidden : ∀ x ∈ made, x.call.Hidden l) :
    (s.replay made).committed = s.committed := by
  induction made generalizing s with
  | nil => rfl
  | cons x rest ih =>
    have others := ih (s.behind x) fun y mem => hidden y (List.mem_cons_of_mem _ mem)
    exact others.trans (s.committed_behind (hidden x (by simp)))

/-- A commit that does not succeed changes nothing behind them. -/
theorem committed_undone (s : LobContent) {hidden last : List Exchange} {out : Outcome Unit}
    (leaves : ∀ x ∈ hidden, x.call.Hidden l)
    (ended : last = [] ∧ out ≠ .done () ∨ last = [⟨.commitLob l, out⟩]) (undone : out ≠ .done ()) :
    (s.replay (hidden ++ last)).committed = s.committed := by
  have first := s.committed_replay leaves
  rw [replay_append]
  rcases ended with ⟨rfl, -⟩ | rfl
  · exact first
  · cases out with
    | done u => exact absurd rfl undone
    | failed e => exact first
    | stuck => exact first

/-- Pieces one behind the other come to the same as their data at once. -/
theorem replay_writes (s : LobContent) {ps : List LobData} {offset : Nat} (positive : 1 ≤ offset)
    (some_sent : ps ≠ []) (alike : (s.pending.getD s.committed).kind = s.committed.kind)
    (kinds : ∀ p ∈ ps, p.kind = s.committed.kind) :
    s.replay (writes l offset ps) = { s with
      pending := some (overwrite (s.pending.getD s.committed) offset
        (LobData.joined s.committed.kind ps)) } := by
  induction ps generalizing s offset with
  | nil => exact absurd rfl some_sent
  | cons p rest ih =>
    have kind : p.kind = s.committed.kind := kinds p (by simp)
    have kinds_rest : ∀ q ∈ rest, q.kind = s.committed.kind :=
      fun q mem => kinds q (List.mem_cons_of_mem _ mem)
    let first : LobContent :=
      { s with pending := some (overwrite (s.pending.getD s.committed) offset p) }
    have one : s.replay (writes l offset (p :: rest)) =
        first.replay (writes l (offset + p.size) rest) := rfl
    rw [one]
    cases rest with
    | nil =>
      have whole : LobData.joined s.committed.kind [p] = p := by
        rw [LobData.joined, LobData.joined, ← kind, LobData.append_empty]
      rw [whole]
      rfl
    | cons q others =>
      have joined_kind : (LobData.joined s.committed.kind (q :: others)).kind =
          s.committed.kind := LobData.kind_joined kinds_rest
      have base : (first.pending.getD first.committed).kind = first.committed.kind := by
        simp [first, alike]
      rw [ih first (by omega) (by simp) base kinds_rest, LobData.joined.eq_2 _ p,
        ← LobData.overwrite_overwrite positive (kind.trans alike.symm)
          (joined_kind.trans alike.symm)]
      rfl

end LobContent

/-! ## Sessions that keep an object -/

variable {σ : Type}

/-- The session keeps an object, and only its calls change it. An answer that is not waited for
changes nothing. -/
structure KeepsLob (host : Host σ) (l : LobLocator) (content : σ → LobContent) : Prop where
  begun : ∀ c, c.Concerns l → ∀ s, content (host.answer c s).begun = content s
  result : ∀ c, c.Concerns l → ∀ s, content (host.answer c s).result.2 =
    (content s).behind ⟨c, (host.answer c s).result.1⟩

theorem KeepsLob.moves {host : Host σ} {l : LobLocator} {content : σ → LobContent}
    (keeps : KeepsLob host l content) :
    Moves host content LobContent.behind (Call.Concerns l) := by
  intro c hc watch w
  rcases await_ends (host.answer c w.session) watch w with
    ⟨e, outcome, session⟩ | ⟨outcome, session⟩
  · rw [session, outcome, keeps.begun c hc]
    rfl
  · rw [session, outcome, keeps.result c hc]

/-! ## The session in memory -/

namespace Memory.Store

variable {s : Store} {l : LobLocator} {o : StoredLob}

/-- What is kept of an object; nothing if there is no such object. -/
def content (l : LobLocator) (s : Store) : LobContent :=
  match s.lobs.find? (·.locator == l.bytes) with
  | some o => ⟨o.committed, o.pending⟩
  | none => ⟨.empty l.kind, none⟩

theorem find?_insertLob (o : StoredLob) (lobs : List StoredLob) :
    (insertLob o lobs).find? (·.locator == o.locator) = some o := by
  induction lobs with
  | nil => simp [insertLob]
  | cons p rest ih =>
    rw [insertLob]
    split
    · simp
    split
    · simp
    · next other _ => simpa [other] using ih

theorem find?_of_lob? (found : s.lob? l = .ok o) :
    s.lobs.find? (·.locator == l.bytes) = some o := by
  rw [lob?] at found
  cases there : s.lobs.find? (·.locator == l.bytes) with
  | none => simp [there, throw, throwThe, MonadExceptOf.throw] at found
  | some p =>
    rw [there] at found
    cases closed : p.closed with
    | true => simp [closed, throw, throwThe, MonadExceptOf.throw] at found
    | false => simpa [closed, pure, Except.pure] using found

theorem content_of_lob? (found : s.lob? l = .ok o) :
    s.content l = ⟨o.committed, o.pending⟩ := by
  rw [content, find?_of_lob? found]

theorem content_putLob (found : s.lob? l = .ok o) {p : StoredLob}
    (same : p.locator = o.locator) : (s.putLob p).content l = ⟨p.committed, p.pending⟩ := by
  have named : p.locator = l.bytes := by
    have here := List.find?_some (find?_of_lob? found)
    rw [same]
    simpa using here
  have put := find?_insertLob p s.lobs
  rw [named] at put
  rw [content, putLob, put]

/-- The outcome of a call that is waited for. -/
def outcome {ρ : Type} : Except Error ρ → Outcome ρ
  | .ok r => .done r
  | .error e => .failed e

/-- An object changes as its calls say. -/
theorem content_respond {c : Call} (concerns : c.Concerns l) (s : Store) :
    (s.respond c).2.content l = (s.content l).behind ⟨c, outcome (s.respond c).1⟩ := by
  cases found : s.lob? l with
  | error e =>
    -- Every call for the object fails.
    obtain ⟨⟨⟩⟩ | _ | _ := concerns <;>
      simp [respond, reply, found, outcome, LobContent.behind, bind, Except.bind]
  | ok o =>
    have here := content_of_lob? found
    obtain ⟨⟨⟩⟩ | _ | _ := concerns
    all_goals
      simp only [respond, reply, found, bind, Except.bind, pure, Except.pure]
    case hidden.read => rfl
    case hidden.measure => rfl
    case hidden.write offset data =>
      by_cases wrong : o.committed.kind ≠ data.kind
      · rw [if_pos wrong]
        rfl
      · rw [if_neg wrong, here]
        exact content_putLob found rfl
    case hidden.close =>
      rw [here]
      exact content_putLob found rfl
    case trim =>
      rw [here]
      exact content_putLob found rfl
    case commit =>
      rw [here]
      exact content_putLob found rfl

theorem result_answered {ρ : Type} (begun finished : Store) (span : Span) (r : Except Error ρ) :
    Answer.result { begun := begun, wait := some span, finished := finished, reply := r } =
      (outcome r, finished) := by
  cases r <;> rfl

/-- The session in memory keeps its objects, whatever goes wrong with its calls. -/
theorem keepsLob (patience : Nat) (l : LobLocator) : KeepsLob (host patience) l (content l) where
  begun := by
    intro c _ s
    show (answer c s).begun.content l = s.content l
    simp only [answer]
    split
    · rfl
    · rfl
    · rfl
    · rfl
    · cases c <;> rfl
    · cases c <;> rfl
  result := by
    intro c concerns s
    show (answer c s).result.2.content l = (s.content l).behind ⟨c, (answer c s).result.1⟩
    have normal := content_respond concerns { s with called := Method.ofCall c :: s.called }
    simp only [answer]
    split
    · rwa [atOnce, result_answered]
    · rfl
    · rfl
    · rwa [result_answered]
    · obtain ⟨⟨⟩⟩ | _ | _ := concerns <;> dsimp only [atOnce] <;> rw [result_answered]
      · rfl
      all_goals exact normal
    · obtain ⟨⟨⟩⟩ | _ | _ := concerns <;> dsimp only [atOnce] <;> rw [result_answered] <;>
        exact normal

/-- A session with one object. -/
def single (l : LobLocator) (d : LobData) : Store :=
  { empty l.chunkSize with lobs := [⟨l.bytes, d, none, false⟩] }

end Memory.Store

end SqlBinder
