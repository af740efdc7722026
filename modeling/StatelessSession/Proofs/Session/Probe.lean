import StatelessSession.Proofs.Session.ServerFacts
import StatelessSession.Proofs.Session.Validation

/-!
# What a negotiation does

Everything that a negotiation can do to the world: what it sends, what it answers, what it leaves in
the request and in the caller's signal. It depends on whether the options tell the facts, on when
the caller cancels, and on the reply to the probe.

* `Textual`, `Tells`, `Malformed` -- good and bad replies, in the words of rows and values.
* `Faulty` -- the fault of a bad reply: the first column that is missing or holds no text.
* `factsOfAnswer_eq_ok_iff`, `factsOfAnswer_eq_error_iff` -- what is read of a reply.
* `Gathers`, `gathers_facts` -- all ways of finding out about the server, one case for each.
* **`negotiate_effects`** -- result, signal, traffic and request of every negotiation.

NOT here: which zones are known, and the profile that options and facts make.
-/

namespace StatelessSession

namespace Negotiation

variable {o : Options} {r : Request} {t : Transport} {signal : Signal} {e : SessionError}
  {row : Row} {i : Nat} {reply : Except TransportError ResultSet}

/-! ## 1. Replies -/

/-- **A value is read as a text**: a text as itself, an absent value as the empty text. -/
inductive Textual : Value → String → Prop where
  | text (s : String) : Textual (.text s) s
  | null : Textual .null ""

/-- A row begins with the texts of database, user, zone and version. -/
def RowTells (row : Row) (database user timeZone version : String) : Prop :=
  ∃ a b c d more, row.values = a :: b :: c :: d :: more ∧
    Textual a database ∧ Textual b user ∧ Textual c timeZone ∧ Textual d version

/-- **A good reply**: its first row tells the facts. -/
def Tells (reply : Except TransportError ResultSet) (database user timeZone version : String) :
    Prop :=
  ∃ rs row rows, reply = .ok rs ∧ rs.rows = row :: rows ∧
    RowTells row database user timeZone version

/-- A row is too short, or one of its first four values is neither a text nor absent. -/
def RowMalformed (row : Row) : Prop :=
  row.values.length < 4 ∨ ∃ v ∈ row.values.take 4, ∀ s, ¬ Textual v s

/-- **A reply that the request was cancelled**, or whatever drives it was interrupted. -/
def Interrupts (reply : Except TransportError ResultSet) : Prop :=
  ∃ reason, reply = .error (.cancelled reason) ∨ reply = .error (.interrupted reason)

/-- **A bad reply**: any other error, no row, or a first row that is malformed. -/
def Malformed (reply : Except TransportError ResultSet) : Prop :=
  (∃ e, reply = .error e ∧ ¬ Interrupts reply) ∨
    ∃ rs, reply = .ok rs ∧
      (rs.rows = [] ∨ ∃ row rows, rs.rows = row :: rows ∧ RowMalformed row)

/-- The fault of one column: there is no value, or none that is read as a text. -/
inductive ColumnFaulty (row : Row) (i : Nat) : SessionError → Prop where
  | missing (h : row.values[i]? = none) : ColumnFaulty row i (.missingServerInfo i)
  | odd {v : Value} (h : row.values[i]? = some v) (hv : ∀ s, ¬ Textual v s) :
      ColumnFaulty row i (.oddServerInfo i v)

/-- A column holds a text. -/
def ColumnTells (row : Row) (i : Nat) : Prop := ∃ v s, row.values[i]? = some v ∧ Textual v s

/-- The first fault among the four columns, from column `n` on. -/
def FaultyFrom (row : Row) (n : Nat) (e : SessionError) : Prop :=
  ∃ i, n ≤ i ∧ i < 4 ∧ ColumnFaulty row i e ∧ ∀ j, n ≤ j → j < i → ColumnTells row j

/-- **The fault of a bad reply.** Of several columns the first counts. -/
inductive Faulty : Except TransportError ResultSet → SessionError → Prop where
  | failed {e : TransportError} (h : ¬ Interrupts (.error e)) : Faulty (.error e) (.probeFailed e)
  | noRow {rs : ResultSet} (h : rs.rows = []) : Faulty (.ok rs) .noServerInfo
  | column {rs : ResultSet} {row : Row} {rows : List Row} {e : SessionError}
      (h : rs.rows = row :: rows) (he : FaultyFrom row 0 e) : Faulty (.ok rs) e

/-! ## 2. Reading a reply -/

theorem scalar_eq_ok_iff {s : String} :
    scalar row i = .ok s ↔ ∃ v, row.values[i]? = some v ∧ Textual v s := by
  unfold scalar Row.at?
  constructor
  · intro h
    split at h
    · rename_i hv
      cases h
      exact ⟨_, hv, .text _⟩
    · rename_i hv
      cases h
      exact ⟨_, hv, .null⟩
    · cases h
    · cases h
  · intro ⟨v, hv, hs⟩
    rw [hv]
    cases hs with
    | text s => rfl
    | null => rfl

theorem scalar_eq_error_iff : scalar row i = .error e ↔ ColumnFaulty row i e := by
  constructor
  · intro h
    unfold scalar Row.at? at h
    split at h
    · cases h
    · cases h
    · rename_i v htext hnull hv
      cases h
      refine .odd hv fun s hs => ?_
      cases hs with
      | text s => exact htext s rfl
      | null => exact hnull rfl
    · rename_i hv
      cases h
      exact .missing hv
  · intro h
    cases hs : scalar row i with
    | ok s =>
      -- a column with a fault has no text
      obtain ⟨v, hv, hread⟩ := scalar_eq_ok_iff.1 hs
      cases h with
      | missing hnone => exact absurd (hv.symm.trans hnone) nofun
      | odd hv' hodd =>
        cases Option.some.inj (hv.symm.trans hv')
        exact absurd hread (hodd s)
    | error e' =>
      unfold scalar Row.at? at hs
      cases h with
      | missing hnone =>
        rw [hnone] at hs
        cases hs
        rfl
      | @odd v hv hodd =>
        rw [hv] at hs
        cases v with
        | text s => cases hs
        | null => cases hs
        | _ =>
          cases hs
          rfl

theorem bind_eq_ok_iff {ε α β : Type} {x : Except ε α} {f : α → Except ε β} {b : β} :
    x >>= f = .ok b ↔ ∃ a, x = .ok a ∧ f a = .ok b := by
  cases x with
  | error e => exact iff_of_false nofun fun ⟨_, h, _⟩ => nomatch h
  | ok a => exact ⟨fun h => ⟨a, rfl, h⟩, fun ⟨_, h, h'⟩ => (Except.ok.inj h) ▸ h'⟩

theorem bind_eq_error_iff {ε α β : Type} {x : Except ε α} {f : α → Except ε β} {e : ε} :
    x >>= f = .error e ↔ x = .error e ∨ ∃ a, x = .ok a ∧ f a = .error e := by
  cases x with
  | error e' =>
    refine ⟨fun h => .inl (congrArg _ (Except.error.inj h)), fun h => ?_⟩
    rcases h with h | ⟨a, h, -⟩
    · exact congrArg _ (Except.error.inj h)
    · cases h
  | ok a =>
    refine ⟨fun h => .inr ⟨a, rfl, h⟩, fun h => ?_⟩
    rcases h with h | ⟨a', h, h'⟩
    · cases h
    · cases h
      exact h'

/-- Four columns that hold texts are the first four values. -/
theorem rowTells_iff {database user timeZone version : String} :
    RowTells row database user timeZone version ↔
      scalar row 0 = .ok database ∧ scalar row 1 = .ok user ∧ scalar row 2 = .ok timeZone ∧
        scalar row 3 = .ok version := by
  simp only [scalar_eq_ok_iff]
  constructor
  · intro ⟨a, b, c, d, more, hrow, ha, hb, hc, hd⟩
    rw [hrow]
    exact ⟨⟨a, rfl, ha⟩, ⟨b, rfl, hb⟩, ⟨c, rfl, hc⟩, d, rfl, hd⟩
  · intro ⟨⟨a, hrow, ha⟩, ⟨b, hrow₁, hb⟩, ⟨c, hrow₂, hc⟩, d, hrow₃, hd⟩
    match hvalues : row.values with
    | a' :: b' :: c' :: d' :: more =>
      rw [hvalues] at hrow hrow₁ hrow₂ hrow₃
      cases hrow
      cases hrow₁
      cases hrow₂
      cases hrow₃
      exact ⟨_, _, _, _, more, hvalues, ha, hb, hc, hd⟩
    | [] | [_] | [_, _] | [_, _, _] =>
      rw [hvalues] at hrow₃
      cases hrow₃

theorem factsOfRow_eq_ok_iff {f : Facts} :
    factsOfRow row = .ok f ↔ ∃ database user timeZone version,
      f = ⟨some database, some user, timeZone, version⟩ ∧
        RowTells row database user timeZone version := by
  simp only [factsOfRow, bind_eq_ok_iff, rowTells_iff]
  constructor
  · rintro ⟨database, h₀, user, h₁, timeZone, h₂, version, h₃, hf⟩
    cases hf
    exact ⟨database, user, timeZone, version, rfl, h₀, h₁, h₂, h₃⟩
  · rintro ⟨database, user, timeZone, version, hf, h₀, h₁, h₂, h₃⟩
    rw [hf]
    exact ⟨database, h₀, user, h₁, timeZone, h₂, version, h₃, rfl⟩

/-- One column is read, and then those after it. -/
theorem faultyFrom_succ {n : Nat} (hn : n < 4) :
    FaultyFrom row n e ↔ ColumnFaulty row n e ∨ ColumnTells row n ∧ FaultyFrom row (n + 1) e := by
  constructor
  · intro ⟨i, hni, hi, he, hbefore⟩
    rcases Nat.eq_or_lt_of_le hni with rfl | hlt
    · exact .inl he
    · refine .inr ⟨hbefore n (Nat.le_refl n) hlt, i, hlt, hi, he, fun j hj => hbefore j ?_⟩
      exact Nat.le_of_succ_le hj
  · intro h
    rcases h with he | ⟨hc, i, hni, hi, he, hbefore⟩
    · exact ⟨n, Nat.le_refl n, hn, he, fun j hj hj' => absurd hj (Nat.not_le_of_lt hj')⟩
    · refine ⟨i, Nat.le_of_succ_le hni, hi, he, fun j hj hji => ?_⟩
      rcases Nat.eq_or_lt_of_le hj with rfl | hlt
      · exact hc
      · exact hbefore j hlt hji

theorem bind_scalar_eq_error_iff {n : Nat} {f : String → Except SessionError Facts} (hn : n < 4)
    (hf : ∀ s, f s = .error e ↔ FaultyFrom row (n + 1) e) :
    scalar row n >>= f = .error e ↔ FaultyFrom row n e := by
  rw [bind_eq_error_iff, scalar_eq_error_iff, faultyFrom_succ hn]
  refine or_congr_right ⟨fun ⟨s, hs, h⟩ => ?_, fun ⟨⟨v, s, hv, hs⟩, h⟩ => ?_⟩
  · obtain ⟨v, hv, hread⟩ := scalar_eq_ok_iff.1 hs
    exact ⟨⟨v, s, hv, hread⟩, (hf s).1 h⟩
  · exact ⟨s, scalar_eq_ok_iff.2 ⟨v, hv, hs⟩, (hf s).2 h⟩

/-- **A row fails by its first column at fault.** -/
theorem factsOfRow_eq_error_iff : factsOfRow row = .error e ↔ FaultyFrom row 0 e := by
  have hend : ∀ f : Facts, (Except.ok f : Except SessionError Facts) = .error e ↔
      FaultyFrom row 4 e := fun f => by
    refine iff_of_false nofun ?_
    rintro ⟨i, hfour, hi, -⟩
    omega
  unfold factsOfRow
  refine bind_scalar_eq_error_iff (by omega) fun database => ?_
  refine bind_scalar_eq_error_iff (by omega) fun user => ?_
  refine bind_scalar_eq_error_iff (by omega) fun timeZone => ?_
  exact bind_scalar_eq_error_iff (by omega) fun version => hend _

/-- **A row is malformed** if and only if it does not tell the facts. -/
theorem rowMalformed_iff :
    RowMalformed row ↔ ∀ database user timeZone version,
      ¬ RowTells row database user timeZone version := by
  constructor
  · intro h _ _ _ _ ⟨a, b, c, d, more, hrow, ha, hb, hc, hd⟩
    rcases h with hshort | ⟨v, hv, hodd⟩
    · rw [hrow] at hshort
      simp only [List.length_cons] at hshort
      omega
    · simp only [hrow, List.take_succ_cons, List.take_zero, List.mem_cons, List.not_mem_nil,
        or_false] at hv
      rcases hv with rfl | rfl | rfl | rfl
      · exact hodd _ ha
      · exact hodd _ hb
      · exact hodd _ hc
      · exact hodd _ hd
  · intro h
    match hrow : row.values with
    | a :: b :: c :: d :: more =>
      refine .inr (Classical.byContradiction fun hno => ?_)
      have htext : ∀ v ∈ [a, b, c, d], ∃ s, Textual v s := fun v hv =>
        Classical.byContradiction fun hv' => hno ⟨v, by rwa [hrow], fun s hs => hv' ⟨s, hs⟩⟩
      obtain ⟨database, ha⟩ := htext a (by simp)
      obtain ⟨user, hb⟩ := htext b (by simp)
      obtain ⟨timeZone, hc⟩ := htext c (by simp)
      obtain ⟨version, hd⟩ := htext d (by simp)
      exact h database user timeZone version ⟨a, b, c, d, more, hrow, ha, hb, hc, hd⟩
    | [] | [_] | [_, _] | [_, _, _] =>
      refine .inl ?_
      rw [hrow]
      simp

theorem exists_faultyFrom_iff : (∃ e, FaultyFrom row 0 e) ↔ RowMalformed row := by
  rw [rowMalformed_iff]
  cases hf : factsOfRow row with
  | ok f =>
    obtain ⟨database, user, timeZone, version, -, h⟩ := factsOfRow_eq_ok_iff.1 hf
    refine iff_of_false (fun ⟨e, he⟩ => ?_) fun hno => hno database user timeZone version h
    cases hf.symm.trans (factsOfRow_eq_error_iff.2 he)
  | error e =>
    refine iff_of_true ⟨e, factsOfRow_eq_error_iff.1 hf⟩ fun database user timeZone version h => ?_
    cases hf.symm.trans (factsOfRow_eq_ok_iff.2 ⟨database, user, timeZone, version, rfl, h⟩)

theorem interrupts_iff : Interrupts reply ↔ isCancellation reply = true := by
  cases reply with
  | error e => cases e <;> simp [Interrupts, isCancellation, TransportError.isCancellation]
  | ok rs => simp [Interrupts, isCancellation]

/-- **A reply is bad** if and only if there is a fault in it. -/
theorem malformed_iff : Malformed reply ↔ ∃ e, Faulty reply e := by
  constructor
  · rintro (⟨e, rfl, he⟩ | ⟨rs, rfl, hrows | ⟨row, rows, hrows, hrow⟩⟩)
    · exact ⟨_, .failed he⟩
    · exact ⟨_, .noRow hrows⟩
    · obtain ⟨e, he⟩ := exists_faultyFrom_iff.2 hrow
      exact ⟨e, .column hrows he⟩
  · intro ⟨e, h⟩
    cases h with
    | failed he => exact .inl ⟨_, rfl, he⟩
    | noRow hrows => exact .inr ⟨_, rfl, .inl hrows⟩
    | column hrows he =>
      exact .inr ⟨_, rfl, .inr ⟨_, _, hrows, exists_faultyFrom_iff.1 ⟨e, he⟩⟩⟩

theorem factsOfAnswer_of_nil {rs : ResultSet} (h : rs.rows = []) :
    factsOfAnswer (.ok rs) = .error .noServerInfo := by
  simp only [factsOfAnswer, ResultSet.firstRow?, h, List.head?_nil]

theorem factsOfAnswer_of_cons {rs : ResultSet} {rows : List Row} (h : rs.rows = row :: rows) :
    factsOfAnswer (.ok rs) = factsOfRow row := by
  simp only [factsOfAnswer, ResultSet.firstRow?, h, List.head?_cons]

theorem factsOfAnswer_of_interrupts {e : TransportError} (h : Interrupts (.error e)) :
    factsOfAnswer (.error e) = .error (.probeStopped e) := by
  have hc : e.isCancellation = true := interrupts_iff.1 h
  rw [factsOfAnswer, if_pos hc]

theorem factsOfAnswer_of_not_interrupts {e : TransportError} (h : ¬ Interrupts (.error e)) :
    factsOfAnswer (.error e) = .error (.probeFailed e) := by
  have hc : ¬ e.isCancellation = true := fun hc => h (interrupts_iff.2 hc)
  rw [factsOfAnswer, if_neg hc]

/-- **What is read of a good reply.** -/
theorem factsOfAnswer_eq_ok_iff {f : Facts} :
    factsOfAnswer reply = .ok f ↔ ∃ database user timeZone version,
      f = ⟨some database, some user, timeZone, version⟩ ∧
        Tells reply database user timeZone version := by
  constructor
  · intro h
    cases reply with
    | error e => cases h
    | ok rs =>
      cases hrows : rs.rows with
      | nil =>
        rw [factsOfAnswer_of_nil hrows] at h
        cases h
      | cons row rows =>
        rw [factsOfAnswer_of_cons hrows, factsOfRow_eq_ok_iff] at h
        obtain ⟨database, user, timeZone, version, hf, hrow⟩ := h
        exact ⟨database, user, timeZone, version, hf, rs, row, rows, rfl, hrows, hrow⟩
  · rintro ⟨database, user, timeZone, version, hf, rs, row, rows, rfl, hrows, hrow⟩
    rw [factsOfAnswer_of_cons hrows]
    exact factsOfRow_eq_ok_iff.2 ⟨database, user, timeZone, version, hf, hrow⟩

/-- **What a reply fails with**: its cancellation, or its fault. -/
theorem factsOfAnswer_eq_error_iff :
    factsOfAnswer reply = .error e ↔
      (∃ e', reply = .error e' ∧ Interrupts reply ∧ e = .probeStopped e') ∨ Faulty reply e := by
  constructor
  · intro h
    cases reply with
    | error e' =>
      by_cases hc : Interrupts (.error e')
      · rw [factsOfAnswer_of_interrupts hc] at h
        exact .inl ⟨e', rfl, hc, (Except.error.inj h).symm⟩
      · rw [factsOfAnswer_of_not_interrupts hc] at h
        cases h
        exact .inr (.failed hc)
    | ok rs =>
      cases hrows : rs.rows with
      | nil =>
        rw [factsOfAnswer_of_nil hrows] at h
        cases h
        exact .inr (.noRow hrows)
      | cons row rows =>
        rw [factsOfAnswer_of_cons hrows] at h
        exact .inr (.column hrows (factsOfRow_eq_error_iff.1 h))
  · rintro (⟨e', rfl, hc, rfl⟩ | h)
    · exact factsOfAnswer_of_interrupts hc
    · cases h with
      | failed hc => exact factsOfAnswer_of_not_interrupts hc
      | noRow hrows => exact factsOfAnswer_of_nil hrows
      | column hrows he => exact (factsOfAnswer_of_cons hrows).trans (factsOfRow_eq_error_iff.2 he)

theorem Faulty.not_interrupts (h : Faulty reply e) : ¬ Interrupts reply := by
  cases h with
  | failed hc => exact hc
  | noRow hrows => exact mt interrupts_iff.1 Bool.false_ne_true
  | column hrows he => exact mt interrupts_iff.1 Bool.false_ne_true

theorem Tells.not_faulty {database user timeZone version : String}
    (h : Tells reply database user timeZone version) : ¬ Faulty reply e := by
  intro he
  have hok := factsOfAnswer_eq_ok_iff.2 ⟨database, user, timeZone, version, rfl, h⟩
  cases hok.symm.trans (factsOfAnswer_eq_error_iff.2 (.inr he))

theorem Tells.not_interrupts {database user timeZone version : String}
    (h : Tells reply database user timeZone version) : ¬ Interrupts reply := by
  obtain ⟨rs, row, rows, rfl, -⟩ := h
  exact mt interrupts_iff.1 Bool.false_ne_true

/-! ## 3. Finding out -/

/-- **All ways of finding out about the server**, and what each leaves of request, transport and
    signal. -/
inductive Gathers (o : Options) (r : Request) (t : Transport) :
    Signal → Except SessionError Facts × Request × Transport × Bool → Prop where
  /-- The options tell zone and version. -/
  | told {timeZone version : String} {signal : Signal}
      (h : o.serverInfo? = some (timeZone, version)) :
      Gathers o r t signal (.ok ⟨none, none, timeZone, version⟩, r, t, signal == .before)
  /-- The caller cancels before the probe is sent. -/
  | before (h : o.serverInfo? = none) : Gathers o r t .before (.error .probeCancelled, r, t, true)
  /-- The caller cancels while the probe is waiting. -/
  | during (h : o.serverInfo? = none) :
      Gathers o r t .during (.error .probeCancelled, r, t.record (probeRequest r), true)
  /-- The transport reports a cancellation, which is passed on to the caller. -/
  | stopped {e : TransportError} (h : o.serverInfo? = none)
      (he : (t.execute (probeRequest r)).1 = .error e)
      (hc : Interrupts (t.execute (probeRequest r)).1) :
      Gathers o r t .never (.error (.probeStopped e), r, (t.execute (probeRequest r)).2, true)
  | faulty {e : SessionError} (h : o.serverInfo? = none)
      (he : Faulty (t.execute (probeRequest r)).1 e) :
      Gathers o r t .never (.error e, r, (t.execute (probeRequest r)).2, false)
  /-- The reply is good; zone and version are written into the request, a blank zone as UTC. -/
  | found {database user timeZone version : String} (h : o.serverInfo? = none)
      (hf : Tells (t.execute (probeRequest r)).1 database user timeZone version) :
      Gathers o r t .never
        (.ok ⟨some database, some user, writtenZone timeZone, version⟩,
          r.withServerInfo (writtenZone timeZone) version, (t.execute (probeRequest r)).2, false)

theorem withZone_eq (database user : Option String) (timeZone version : String) :
    Facts.withZone ⟨database, user, timeZone, version⟩ =
      ⟨database, user, writtenZone timeZone, version⟩ := by
  unfold Facts.withZone writtenZone
  dsimp only
  split
  · rfl
  · rfl

theorem facts_of_some {timeZone version : String} (h : o.serverInfo? = some (timeZone, version)) :
    facts o r t signal = (.ok ⟨none, none, timeZone, version⟩, r, t, signal == .before) := by
  simp only [facts, h]

theorem facts_of_tells {database user timeZone version : String} (h : o.serverInfo? = none)
    (hf : Tells (t.execute (probeRequest r)).1 database user timeZone version) :
    facts o r t .never = (.ok ⟨some database, some user, writtenZone timeZone, version⟩,
      r.withServerInfo (writtenZone timeZone) version, (t.execute (probeRequest r)).2, false) := by
  have hreply := factsOfAnswer_eq_ok_iff.2 ⟨database, user, timeZone, version, rfl, hf⟩
  simp only [facts, h, hreply, withZone_eq]

theorem gathers_facts (o : Options) (r : Request) (t : Transport) (signal : Signal) :
    Gathers o r t signal (facts o r t signal) := by
  cases hinfo : o.serverInfo? with
  | some info =>
    rw [facts_of_some hinfo]
    exact .told hinfo
  | none =>
    cases signal with
    | before =>
      simp only [facts, hinfo]
      exact .before hinfo
    | during =>
      simp only [facts, hinfo]
      exact .during hinfo
    | never =>
      cases hreply : factsOfAnswer (t.execute (probeRequest r)).1 with
      | error e =>
        simp only [facts, hinfo, hreply]
        rcases factsOfAnswer_eq_error_iff.1 hreply with ⟨e', he, hc, rfl⟩ | he
        · rw [interrupts_iff.1 hc]
          exact .stopped hinfo he hc
        · rw [Bool.eq_false_iff.2 (mt interrupts_iff.2 he.not_interrupts)]
          exact .faulty hinfo he
      | ok f =>
        obtain ⟨database, user, timeZone, version, -, hf⟩ := factsOfAnswer_eq_ok_iff.1 hreply
        rw [facts_of_tells hinfo hf]
        exact .found hinfo hf

/-! ## 4. The effects -/

/-- An answer is an error of a kind. -/
def Fails {α : Type} (answer : Except SessionError α) (k : ErrorKind) : Prop :=
  ∃ e, answer = .error e ∧ e.kind = k

@[simp] theorem not_fails_ok {α : Type} {a : α} {k : ErrorKind} :
    ¬ Fails (.ok a : Except SessionError α) k := by
  rintro ⟨e, h, -⟩
  cases h

@[simp] theorem fails_error_iff {α : Type} {k : ErrorKind} :
    Fails (.error e : Except SessionError α) k ↔ e.kind = k := by
  constructor
  · rintro ⟨e', h, hk⟩
    cases h
    exact hk
  · exact fun hk => ⟨e, rfl, hk⟩

/-- **A probe is needed and cancelled**, by the caller or as the transport reports. -/
def Stopped (o : Options) (r : Request) (t : Transport) (signal : Signal) : Prop :=
  o.hasServerInfo = false ∧ (signal ≠ .never ∨ Interrupts (t.execute (probeRequest r)).1)

/-- **What a negotiation does**, for the options `o`, the request `r` and the transport `t`. -/
structure Effects (o : Options) (r : Request) (t : Transport) (signal : Signal) : Prop where
  /-- At most the probe is sent, and nothing if the options tell zone and version or the caller has
      cancelled before. -/
  sent : (negotiate o r t signal).transport.sent =
    t.sent ++ if o.hasServerInfo || signal == .before then [] else [probeRequest r]
  /-- The probe is the request, but waiting, uncompressed, in binary rows and without an id. -/
  probe : probeRequest r =
    { r with
      settings :=
        { r.settings with
          asynchronous := false, compress := false, decompress := false, format := .rowBinary }
      sql := some probeSql, queryId := none }
  /-- Nothing else is asked of the transport. -/
  quiet : (negotiate o r t signal).transport.pings = t.pings ∧
    (negotiate o r t signal).transport.closeCalls = t.closeCalls
  cancelled_iff : Fails (negotiate o r t signal).answer .cancelled ↔ Stopped o r t signal
  /-- The signal is set afterwards if the caller set it before, and else only by a probe that was
      cancelled. -/
  signal_iff : (negotiate o r t signal).cancelled = true ↔
    signal = .before ∨ Stopped o r t signal
  connection_iff : Fails (negotiate o r t signal).answer .connection ↔
    o.hasServerInfo = false ∧ signal = .never ∧ Malformed (t.execute (probeRequest r)).1
  /-- It is the fault of the reply that is reported. -/
  fault : ∀ e, (negotiate o r t signal).answer = .error e → e.kind = .connection →
    Faulty (t.execute (probeRequest r)).1 e
  /-- A probe that fails leaves the request as it was. -/
  unchanged : ∀ e, (negotiate o r t signal).answer = .error e →
    e.kind = .cancelled ∨ e.kind = .connection → (negotiate o r t signal).request = r
  /-- So do options that tell zone and version; they make the profile. -/
  told : ∀ timeZone version, o.serverInfo? = some (timeZone, version) →
    (negotiate o r t signal).request = r ∧
      (negotiate o r t signal).answer = profile o ⟨none, none, timeZone, version⟩
  /-- A good reply changes the request in zone and version, a blank zone being written as UTC, and
      makes the profile. The request is changed even if there is no profile. -/
  found : o.hasServerInfo = false → signal = .never → ∀ database user timeZone version,
    Tells (t.execute (probeRequest r)).1 database user timeZone version →
      (negotiate o r t signal).request =
        { r with
          settings :=
            { r.settings with
              serverTimeZone := some (writtenZone timeZone), serverVersion := some version } } ∧
      (negotiate o r t signal).answer =
        profile o ⟨some database, some user, writtenZone timeZone, version⟩
  /-- There is no other reply than one that is interrupted, bad or good. -/
  replies : Interrupts (t.execute (probeRequest r)).1 ∨ Malformed (t.execute (probeRequest r)).1 ∨
    ∃ database user timeZone version,
      Tells (t.execute (probeRequest r)).1 database user timeZone version
  /-- With the facts at hand only the zone of the client can be missing. -/
  config_iff : ∀ e, (negotiate o r t signal).answer = .error e ∧ e.kind = .config ↔
    (o.hasServerInfo = true ∨ signal = .never ∧ ∃ database user timeZone version,
      Tells (t.execute (probeRequest r)).1 database user timeZone version) ∧
    o.Zoneless ∧ e = .unknownZone (Text.trimmed (o.useTimeZone.getD ""))
  /-- There are no other errors. -/
  kinds : ∀ e, (negotiate o r t signal).answer = .error e →
    e.kind = .cancelled ∨ e.kind = .connection ∨ e.kind = .config

theorem serverInfo?_eq_none (h : o.hasServerInfo = false) : o.serverInfo? = none := by
  rwa [Options.hasServerInfo, Option.isSome_eq_false_iff, Option.isNone_iff_eq_none] at h

theorem hasServerInfo_of_some {info : String × String} (h : o.serverInfo? = some info) :
    o.hasServerInfo = true := by
  rw [Options.hasServerInfo, h, Option.isSome_some]

theorem hasServerInfo_of_none (h : o.serverInfo? = none) : o.hasServerInfo = false := by
  rw [Options.hasServerInfo, h, Option.isSome_none]

theorem Faulty.kind_eq (h : Faulty reply e) : e.kind = .connection := by
  cases h with
  | failed hc => rfl
  | noRow hrows => rfl
  | column hrows he =>
    obtain ⟨i, -, -, he, -⟩ := he
    cases he <;> rfl

/-- **Without facts a negotiation fails** as the probe did, with them for lack of a zone. -/
theorem answer_eq_error_iff : (negotiate o r t signal).answer = .error e ↔
    (facts o r t signal).1 = .error e ∨ (∃ f, (facts o r t signal).1 = .ok f) ∧ o.Zoneless ∧
      e = .unknownZone (Text.trimmed (o.useTimeZone.getD "")) := by
  simp only [answer_negotiate, bind_eq_error_iff, profile_eq_error_iff, exists_and_right]

/-- Only the zone is blamed on the options, so all other errors are those of the probe. -/
theorem answer_eq_error_iff_of_ne (hk : e.kind ≠ .config) :
    (negotiate o r t signal).answer = .error e ↔ (facts o r t signal).1 = .error e := by
  rw [answer_eq_error_iff]
  refine or_iff_left ?_
  rintro ⟨-, -, rfl⟩
  exact hk rfl

theorem fails_negotiate_iff {k : ErrorKind} (hk : k ≠ .config) :
    Fails (negotiate o r t signal).answer k ↔ Fails (facts o r t signal).1 k := by
  refine exists_congr fun e => and_congr_left fun he => answer_eq_error_iff_of_ne ?_
  rw [he]
  exact hk

variable {x : Except SessionError Facts × Request × Transport × Bool}

/-- Where the probe was not interrupted, it was not cancelled at all. -/
theorem not_stopped (h : ¬ Interrupts (t.execute (probeRequest r)).1) : ¬ Stopped o r t .never := by
  rintro ⟨-, hs | hs⟩
  · exact hs rfl
  · exact h hs

theorem not_stopped_of_some {info : String × String} (h : o.serverInfo? = some info) :
    ¬ Stopped o r t signal := fun hs => by
  cases (hasServerInfo_of_some h).symm.trans hs.1

namespace Gathers

theorem cancelled_iff (h : Gathers o r t signal x) :
    Fails x.1 .cancelled ↔ Stopped o r t signal := by
  cases h with
  | told hinfo => exact iff_of_false not_fails_ok (not_stopped_of_some hinfo)
  | before hinfo =>
    exact iff_of_true (fails_error_iff.2 rfl) ⟨hasServerInfo_of_none hinfo, .inl nofun⟩
  | during hinfo =>
    exact iff_of_true (fails_error_iff.2 rfl) ⟨hasServerInfo_of_none hinfo, .inl nofun⟩
  | stopped hinfo he hc =>
    exact iff_of_true (fails_error_iff.2 rfl) ⟨hasServerInfo_of_none hinfo, .inr hc⟩
  | faulty hinfo he =>
    refine iff_of_false (fun hk => ?_) (not_stopped he.not_interrupts)
    cases he.kind_eq.symm.trans (fails_error_iff.1 hk)
  | found hinfo hf => exact iff_of_false not_fails_ok (not_stopped hf.not_interrupts)

theorem signal_iff (h : Gathers o r t signal x) :
    x.2.2.2 = true ↔ signal = .before ∨ Stopped o r t signal := by
  cases h with
  | told hinfo =>
    rw [or_iff_left (not_stopped_of_some hinfo)]
    exact beq_iff_eq
  | before hinfo => exact iff_of_true rfl (.inl rfl)
  | during hinfo => exact iff_of_true rfl (.inr ⟨hasServerInfo_of_none hinfo, .inl nofun⟩)
  | stopped hinfo he hc => exact iff_of_true rfl (.inr ⟨hasServerInfo_of_none hinfo, .inr hc⟩)
  | faulty hinfo he =>
    exact iff_of_false Bool.false_ne_true (not_or_intro nofun (not_stopped he.not_interrupts))
  | found hinfo hf =>
    exact iff_of_false Bool.false_ne_true (not_or_intro nofun (not_stopped hf.not_interrupts))

theorem connection_iff (h : Gathers o r t signal x) :
    Fails x.1 .connection ↔
      o.hasServerInfo = false ∧ signal = .never ∧ Malformed (t.execute (probeRequest r)).1 := by
  rw [malformed_iff]
  cases h with
  | told hinfo =>
    refine iff_of_false not_fails_ok fun hs => ?_
    cases (hasServerInfo_of_some hinfo).symm.trans hs.1
  | before hinfo => exact iff_of_false (fun hk => nomatch fails_error_iff.1 hk) nofun
  | during hinfo => exact iff_of_false (fun hk => nomatch fails_error_iff.1 hk) nofun
  | stopped hinfo he hc =>
    refine iff_of_false (fun hk => nomatch fails_error_iff.1 hk) ?_
    rintro ⟨-, -, e, he'⟩
    exact he'.not_interrupts hc
  | faulty hinfo he =>
    exact iff_of_true (fails_error_iff.2 he.kind_eq) ⟨hasServerInfo_of_none hinfo, rfl, _, he⟩
  | found hinfo hf =>
    refine iff_of_false not_fails_ok ?_
    rintro ⟨-, -, e, he⟩
    exact hf.not_faulty he

/-- A probe that fails tells why, and leaves the request as it was. -/
theorem of_error (h : Gathers o r t signal x) (he : x.1 = .error e) :
    x.2.1 = r ∧ (e.kind = .cancelled ∨
      e.kind = .connection ∧ Faulty (t.execute (probeRequest r)).1 e) := by
  cases h with
  | told hinfo => cases he
  | before hinfo =>
    cases he
    exact ⟨rfl, .inl rfl⟩
  | during hinfo =>
    cases he
    exact ⟨rfl, .inl rfl⟩
  | stopped hinfo he' hc =>
    cases he
    exact ⟨rfl, .inl rfl⟩
  | faulty hinfo he' =>
    cases he
    exact ⟨rfl, .inr ⟨he'.kind_eq, he'⟩⟩
  | found hinfo hf => cases he

/-- Of the transport nothing is asked but the probe. -/
theorem quiet (h : Gathers o r t signal x) :
    x.2.2.1.pings = t.pings ∧ x.2.2.1.closeCalls = t.closeCalls := by
  have hexecute : (t.execute (probeRequest r)).2.pings = t.pings ∧
      (t.execute (probeRequest r)).2.closeCalls = t.closeCalls := by
    refine ⟨?_, t.closeCalls_execute _⟩
    simp only [Transport.execute, Transport.record]
    split
    · rfl
    · rfl
  cases h with
  | told | before | during => exact ⟨rfl, rfl⟩
  | stopped | faulty | found => exact hexecute

/-- **The facts are at hand** if they were told or the reply is good. -/
theorem ok_iff (h : Gathers o r t signal x) :
    (∃ f, x.1 = .ok f) ↔ o.hasServerInfo = true ∨
      signal = .never ∧ ∃ database user timeZone version,
        Tells (t.execute (probeRequest r)).1 database user timeZone version := by
  cases h with
  | told hinfo => exact iff_of_true ⟨_, rfl⟩ (.inl (hasServerInfo_of_some hinfo))
  | before hinfo =>
    rw [hasServerInfo_of_none hinfo]
    exact iff_of_false nofun (not_or_intro nofun nofun)
  | during hinfo =>
    rw [hasServerInfo_of_none hinfo]
    exact iff_of_false nofun (not_or_intro nofun nofun)
  | stopped hinfo he hc =>
    rw [hasServerInfo_of_none hinfo]
    refine iff_of_false nofun (not_or_intro nofun ?_)
    rintro ⟨-, _, _, _, _, hf⟩
    exact hf.not_interrupts hc
  | faulty hinfo he =>
    rw [hasServerInfo_of_none hinfo]
    refine iff_of_false nofun (not_or_intro nofun ?_)
    rintro ⟨-, _, _, _, _, hf⟩
    exact hf.not_faulty he
  | found hinfo hf => exact iff_of_true ⟨_, rfl⟩ (.inr ⟨rfl, _, _, _, _, hf⟩)

end Gathers

/-- There is no other reply than one that is interrupted, bad or good. -/
theorem reply_cases (reply : Except TransportError ResultSet) :
    Interrupts reply ∨ Malformed reply ∨
      ∃ database user timeZone version, Tells reply database user timeZone version := by
  cases hreply : factsOfAnswer reply with
  | error e =>
    rcases factsOfAnswer_eq_error_iff.1 hreply with ⟨_, -, hc, -⟩ | he
    · exact .inl hc
    · exact .inr (.inl (malformed_iff.2 ⟨e, he⟩))
  | ok f =>
    obtain ⟨database, user, timeZone, version, -, hf⟩ := factsOfAnswer_eq_ok_iff.1 hreply
    exact .inr (.inr ⟨database, user, timeZone, version, hf⟩)

/-- **The effects of every negotiation.** -/
theorem negotiate_effects (o : Options) (r : Request) (t : Transport) (signal : Signal) :
    Effects o r t signal where
  sent := by rw [transport_negotiate, sent_facts, asked]
  probe := rfl
  quiet := by
    rw [transport_negotiate]
    exact (gathers_facts o r t signal).quiet
  cancelled_iff := by
    rw [fails_negotiate_iff (by decide)]
    exact (gathers_facts o r t signal).cancelled_iff
  signal_iff := by
    rw [cancelled_negotiate]
    exact (gathers_facts o r t signal).signal_iff
  connection_iff := by
    rw [fails_negotiate_iff (by decide)]
    exact (gathers_facts o r t signal).connection_iff
  fault e he hk := by
    have hfacts := (answer_eq_error_iff_of_ne (by rw [hk]; decide)).1 he
    rcases ((gathers_facts o r t signal).of_error hfacts).2 with hk' | ⟨-, hfault⟩
    · cases hk.symm.trans hk'
    · exact hfault
  unchanged e he hk := by
    have hne : e.kind ≠ .config := by
      rcases hk with hk | hk
      · rw [hk]
        decide
      · rw [hk]
        decide
    rw [request_negotiate]
    exact ((gathers_facts o r t signal).of_error ((answer_eq_error_iff_of_ne hne).1 he)).1
  told timeZone version h := by
    rw [request_negotiate, answer_negotiate, facts_of_some h]
    exact ⟨rfl, rfl⟩
  found hno hs database user timeZone version hf := by
    subst hs
    rw [request_negotiate, answer_negotiate, facts_of_tells (serverInfo?_eq_none hno) hf]
    exact ⟨rfl, rfl⟩
  replies := reply_cases _
  config_iff e := by
    rw [← (gathers_facts o r t signal).ok_iff, answer_eq_error_iff]
    constructor
    · rintro ⟨hfacts | h, hk⟩
      · rcases ((gathers_facts o r t signal).of_error hfacts).2 with hk' | ⟨hk', -⟩
        · cases hk.symm.trans hk'
        · cases hk.symm.trans hk'
      · exact h
    · intro h
      exact ⟨.inr h, by rw [h.2.2]; rfl⟩
  kinds e he := by
    rcases answer_eq_error_iff.1 he with hfacts | ⟨-, -, rfl⟩
    · rcases ((gathers_facts o r t signal).of_error hfacts).2 with hk | ⟨hk, -⟩
      · exact .inl hk
      · exact .inr (.inl hk)
    · exact .inr (.inr rfl)

end Negotiation

end StatelessSession
