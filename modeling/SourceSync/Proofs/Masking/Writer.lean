/-
What comes out of a masking writer. Octets are held back until a flush, so it does not matter how
they were cut into writes: what a flush passes on is the text of all octets since the one before,
with the secrets masked that are active then. Every octet takes part in one flush, in order, and
nothing that is passed on shows a secret, not even in its octets.
-/
import SourceSync.Proofs.Masking
import SourceSync.Proofs.Text.Octets

namespace SourceSync

open Text

namespace MaskingWriter

/-- What can happen to a writer before it is closed. -/
inductive Call where
  | write (octets : List UInt8)
  | flush
  /-- The active secrets are replaced. -/
  | update (values : List String)

namespace Call

def octets : Call → List UInt8
  | write octets => octets
  | _ => []

/-- The secrets that a call brings. -/
def values? : Call → Option (List String)
  | update values => some values
  | _ => none

def isFlush : Call → Bool
  | flush => true
  | _ => false

/-- A call to a writer, beside the active secrets. -/
def run : MaskingWriter × Secrets → Call → MaskingWriter × Secrets
  | (w, active), write octets => (w.write octets, active)
  | (w, active), flush => (w.flush active, active)
  | (w, _), update values => (w, .ofList values)

end Call

/-- All that is received behind a writer: what its calls passed on, and what its end does. -/
def outputOf (start : MaskingWriter × Secrets) (calls : List Call) : List UInt8 :=
  let final := calls.foldl Call.run start
  (final.1.close final.2).written

/-- All that is received behind a new writer. -/
def output (secrets : Secrets) (calls : List Call) : List UInt8 :=
  outputOf (fresh, secrets) calls

def octetsOf (calls : List Call) : List UInt8 :=
  calls.flatMap Call.octets

/-- The secrets that are active behind calls: those that were brought last. -/
def activeBehind (secrets : Secrets) (calls : List Call) : Secrets :=
  ((calls.filterMap Call.values?).getLast?.map Secrets.ofList).getD secrets

/-- Calls up to each flush, and those behind the last one, which the end flushes. -/
def stretches (calls : List Call) : List (List Call) :=
  calls.splitOnP Call.isFlush

/-- What meets in one flush. -/
structure Batch where
  octets : List UInt8
  active : Secrets

/-- The text of a batch, with the active secrets masked. -/
def Batch.text (b : Batch) : String :=
  b.active.redact (String.ofList (Utf8.decodeLossy b.octets))

/-- What is passed on of a batch. -/
def Batch.shown (b : Batch) : List UInt8 :=
  Utf8.encode b.text

/-- The batches of some stretches, one for each. -/
def batchesFrom : Secrets → List (List Call) → List Batch
  | _, [] => []
  | secrets, stretch :: rest =>
    let active := activeBehind secrets stretch
    ⟨octetsOf stretch, active⟩ :: batchesFrom active rest

/-- The batches of some calls. Where nothing was written since the last flush there is none. -/
def batches (secrets : Secrets) (calls : List Call) : List Batch :=
  (batchesFrom secrets (stretches calls)).filter (fun b => b.octets != [])

/-- What a stretch hands over: its octets, however they are cut into writes, and the secrets that
it brings. -/
def handed (stretch : List Call) : List UInt8 × List (List String) :=
  (octetsOf stretch, stretch.filterMap Call.values?)

variable {secrets active : Secrets} {calls : List Call} {b : Batch}

@[simp]
theorem activeBehind_nil (secrets : Secrets) : activeBehind secrets [] = secrets :=
  rfl

@[simp]
theorem activeBehind_update (secrets : Secrets) (values : List String) (calls : List Call) :
    activeBehind secrets (.update values :: calls) = activeBehind (.ofList values) calls := by
  simp only [activeBehind, List.filterMap_cons, Call.values?, List.getLast?_cons, Option.map_some,
    Option.getD_some]
  cases (calls.filterMap Call.values?).getLast? <;> rfl

@[simp]
theorem activeBehind_write (secrets : Secrets) (octets : List UInt8) (calls : List Call) :
    activeBehind secrets (.write octets :: calls) = activeBehind secrets calls :=
  rfl

@[simp]
theorem octetsOf_nil : octetsOf [] = [] :=
  rfl

@[simp]
theorem octetsOf_write (octets : List UInt8) (calls : List Call) :
    octetsOf (.write octets :: calls) = octets ++ octetsOf calls :=
  rfl

@[simp]
theorem octetsOf_update (values : List String) (calls : List Call) :
    octetsOf (.update values :: calls) = octetsOf calls :=
  rfl

@[simp]
theorem octetsOf_flush (calls : List Call) : octetsOf (.flush :: calls) = octetsOf calls :=
  rfl

@[simp]
theorem stretches_flush (calls : List Call) : stretches (.flush :: calls) = [] :: stretches calls :=
  List.splitOnP_cons_eq_if_modifyHead _ _

theorem exists_stretches (calls : List Call) :
    ∃ first rest, stretches calls = first :: rest :=
  List.exists_cons_of_ne_nil (List.splitOnP_ne_nil _ _)

/-- A call that is no flush goes to the front of the first stretch. -/
theorem stretches_cons {call : Call} {first : List Call} {rest : List (List Call)}
    (hcall : call.isFlush = false) (hstretches : stretches calls = first :: rest) :
    stretches (call :: calls) = (call :: first) :: rest := by
  rw [stretches, List.splitOnP_cons_eq_if_modifyHead, hcall]
  exact congrArg (List.modifyHead (List.cons call)) hstretches

section Batches

variable (active : Secrets) (held octets : List UInt8) (values : List String) (calls : List Call)

theorem batchesFrom_write_nil :
    batchesFrom active (stretches (.write [] :: calls)) = batchesFrom active (stretches calls) := by
  obtain ⟨first, rest, hstretches⟩ := exists_stretches calls
  rw [stretches_cons rfl hstretches, hstretches]
  rfl

theorem batchesFrom_write_write :
    batchesFrom active (stretches (.write held :: .write octets :: calls)) =
      batchesFrom active (stretches (.write (held ++ octets) :: calls)) := by
  obtain ⟨first, rest, hstretches⟩ := exists_stretches calls
  rw [stretches_cons rfl (stretches_cons rfl hstretches), stretches_cons rfl hstretches]
  simp [batchesFrom]

theorem batchesFrom_write_update :
    batchesFrom active (stretches (.write held :: .update values :: calls)) =
      batchesFrom (.ofList values) (stretches (.write held :: calls)) := by
  obtain ⟨first, rest, hstretches⟩ := exists_stretches calls
  rw [stretches_cons rfl (stretches_cons rfl hstretches), stretches_cons rfl hstretches]
  simp [batchesFrom]

theorem batchesFrom_write_flush :
    batchesFrom active (stretches (.write held :: .flush :: calls)) =
      ⟨held, active⟩ :: batchesFrom active (stretches calls) := by
  rw [stretches_cons rfl (stretches_flush calls)]
  simp [batchesFrom]

end Batches

/-- A batch of nothing passes nothing on. -/
theorem shown_of_empty (hempty : b.octets = []) : b.shown = [] := by
  have hmasked (values : List String) : Secrets.maskAll values [] = [] := by
    induction values with
    | nil => rfl
    | cons v rest ih => exact ih
  have htext : (String.ofList (Utf8.decodeLossy [])).toList = [] := rfl
  rw [Batch.shown, Batch.text, hempty, Secrets.redact, Secrets.redactWith, htext, hmasked,
    Utf8.encode_eq, String.toList_ofList, List.flatMap_nil]

/-- A flush passes on what is held back, if anything is. -/
theorem flush_open (held written : List UInt8) (active : Secrets) :
    (MaskingWriter.mk held written true).flush active =
      ⟨[], written ++ Batch.shown ⟨held, active⟩, true⟩ := by
  cases held with
  | nil =>
      rw [shown_of_empty (b := ⟨[], active⟩) rfl, List.append_nil]
      rfl
  | cons octet held => rfl

/-- What is held back before some calls counts as written in front of them. -/
theorem outputOf_open (held written : List UInt8) (active : Secrets) (calls : List Call) :
    outputOf (⟨held, written, true⟩, active) calls =
      written ++ (batchesFrom active (stretches (.write held :: calls))).flatMap Batch.shown := by
  induction calls generalizing held written active with
  | nil =>
      have hbatches : batchesFrom active (stretches [.write held]) = [⟨held ++ [], active⟩] := rfl
      change ((MaskingWriter.mk held written true).flush active).written = _
      rw [flush_open, hbatches, List.append_nil, List.flatMap_singleton]
  | cons call calls ih =>
      cases call with
      | write octets =>
          rw [batchesFrom_write_write]
          exact ih (held ++ octets) written active
      | flush =>
          rw [batchesFrom_write_flush, List.flatMap_cons, ← List.append_assoc,
            ← batchesFrom_write_nil, ← ih, ← flush_open]
          rfl
      | update values =>
          rw [batchesFrom_write_update]
          exact ih held written (.ofList values)

/-- It makes no difference that a flush of nothing is no batch. -/
theorem flatMap_batches {f : Batch → List UInt8} (hf : ∀ b : Batch, b.octets = [] → f b = [])
    (secrets : Secrets) (calls : List Call) :
    (batches secrets calls).flatMap f = (batchesFrom secrets (stretches calls)).flatMap f := by
  rw [batches]
  induction batchesFrom secrets (stretches calls) with
  | nil => rfl
  | cons b bs ih =>
      by_cases hempty : b.octets = []
      · simp [hempty, hf b hempty, ih]
      · simp [hempty, ih]

/-- The batches of a session are passed on one behind the other. -/
theorem output_eq (secrets : Secrets) (calls : List Call) :
    output secrets calls = (batches secrets calls).flatMap Batch.shown := by
  rw [flatMap_batches (fun _ => shown_of_empty), ← batchesFrom_write_nil]
  exact outputOf_open [] [] secrets calls

theorem flatMap_octets_batchesFrom (secrets : Secrets) (xs : List (List Call)) :
    (batchesFrom secrets xs).flatMap Batch.octets = xs.flatMap octetsOf := by
  induction xs generalizing secrets with
  | nil => rfl
  | cons x xs ih => exact congrArg (octetsOf x ++ ·) (ih (activeBehind secrets x))

theorem flatMap_octetsOf_stretches (calls : List Call) :
    (stretches calls).flatMap octetsOf = octetsOf calls := by
  induction calls with
  | nil => rfl
  | cons call calls ih =>
      obtain ⟨first, rest, hstretches⟩ := exists_stretches calls
      rw [hstretches, List.flatMap_cons] at ih
      cases call with
      | flush =>
          rw [stretches_flush, octetsOf_flush, hstretches, List.flatMap_cons, List.flatMap_cons, ih,
            octetsOf_nil, List.nil_append]
      | write octets =>
          rw [stretches_cons rfl hstretches, List.flatMap_cons, octetsOf_write, octetsOf_write,
            List.append_assoc, ih]
      | update values =>
          rw [stretches_cons rfl hstretches, List.flatMap_cons, octetsOf_update, octetsOf_update,
            ih]

/-- Every octet is in one batch, in the order in which they were written. -/
theorem flatMap_octets_batches (secrets : Secrets) (calls : List Call) :
    (batches secrets calls).flatMap Batch.octets = octetsOf calls := by
  rw [flatMap_batches (fun _ hempty => hempty), flatMap_octets_batchesFrom,
    flatMap_octetsOf_stretches]

theorem batchesFrom_congr {xs ys : List (List Call)} (hsame : xs.map handed = ys.map handed) :
    batchesFrom secrets xs = batchesFrom secrets ys := by
  induction xs generalizing secrets ys with
  | nil =>
      rw [List.map_nil, eq_comm, List.map_eq_nil_iff] at hsame
      rw [hsame]
  | cons x xs ih =>
      obtain ⟨y, ys, rfl, hfirst, hrest⟩ := List.map_eq_cons_iff.mp hsame.symm
      obtain ⟨hoctets, hvalues⟩ := Prod.mk.inj hfirst
      rw [batchesFrom, batchesFrom, activeBehind, activeBehind, hoctets, hvalues, ih hrest.symm]

theorem batchesFrom_append (secrets : Secrets) (xs ys : List (List Call)) :
    batchesFrom secrets (xs ++ ys) =
      batchesFrom secrets xs ++ batchesFrom (xs.foldl activeBehind secrets) ys := by
  induction xs generalizing secrets with
  | nil => rfl
  | cons x xs ih => exact congrArg (List.cons _) (ih (activeBehind secrets x))

theorem foldl_activeBehind_stretches (secrets : Secrets) (calls : List Call) :
    (stretches calls).foldl activeBehind secrets = activeBehind secrets calls := by
  induction calls generalizing secrets with
  | nil => rfl
  | cons call calls ih =>
      obtain ⟨first, rest, hstretches⟩ := exists_stretches calls
      rw [hstretches] at ih
      cases call with
      | flush =>
          rw [stretches_flush, hstretches]
          exact ih secrets
      | write octets =>
          rw [stretches_cons rfl hstretches]
          exact ih secrets
      | update values =>
          rw [stretches_cons rfl hstretches, List.foldl_cons, activeBehind_update,
            activeBehind_update]
          exact ih (.ofList values)

/-- A flush parts a session in two; the second part begins with the secrets active then. -/
theorem output_append_flush (secrets : Secrets) (before after : List Call) :
    output secrets (before ++ .flush :: after) =
      output secrets before ++ output (activeBehind secrets before) after := by
  have hparts : stretches (before ++ .flush :: after) = stretches before ++ stretches after :=
    List.splitOnP_append_cons before after rfl
  have houtput (active : Secrets) (calls : List Call) : output active calls =
      (batchesFrom active (stretches calls)).flatMap Batch.shown := by
    rw [output_eq, flatMap_batches (fun _ => shown_of_empty)]
  rw [houtput, houtput, houtput, hparts, batchesFrom_append, foldl_activeBehind_stretches,
    List.flatMap_append]

/-- Calls that hand over the same in each stretch have the same batches. -/
theorem batches_congr {others : List Call}
    (hsame : (stretches calls).map handed = (stretches others).map handed) :
    batches secrets calls = batches secrets others := by
  rw [batches, batches, batchesFrom_congr hsame]

/-- What comes out of a masking writer is what its batches come to, one behind the other, and each
flush passes on what was written since the one before, under the secrets active then. All that was
written is in the batches, in order and once, so how it was cut into writes between two flushes,
also within a secret or a character, is not to be seen. No batch shows a secret that was active
when it was flushed, as long as no secret has a mask character. -/
theorem output_of_batches (secrets : Secrets) (calls : List Call) :
    output secrets calls = (batches secrets calls).flatMap Batch.shown ∧
    (batches secrets calls).flatMap Batch.octets = octetsOf calls ∧
    (∀ before after, calls = before ++ .flush :: after →
      output secrets calls =
        output secrets before ++ output (activeBehind secrets before) after) ∧
    (∀ others, (stretches calls).map handed = (stretches others).map handed →
      output secrets others = output secrets calls) ∧
    ∀ b ∈ batches secrets calls, (∀ v ∈ b.active.values, '*' ∉ v.toList) →
      ∀ v ∈ b.active.values, ¬ Utf8.encode v <:+: b.shown := by
  refine ⟨output_eq secrets calls, flatMap_octets_batches secrets calls, ?_, ?_, ?_⟩
  · rintro before after rfl
    exact output_append_flush secrets before after
  · intro others hsame
    rw [output_eq, output_eq, batches_congr hsame]
  · intro b _ hplain v hv hinside
    have hhidden := b.active.hiddenIn_redact hplain (String.ofList (Utf8.decodeLossy b.octets))
    exact hhidden v hv (Utf8.encode_isInfix_iff.mp hinside)

namespace WriterExample

/-- A secret in two writes and, behind two flushes, a character in two writes; in between the
secrets change. -/
def session : List Call :=
  [.write [107, 97], .write [98], .flush, .flush, .write [0xC3], .update ["é"], .write [0xA9]]

/-- The same with one write for each flush. -/
def joined : List Call :=
  [.write [107, 97, 98], .flush, .flush, .update ["é"], .write [0xC3, 0xA9]]

theorem batches_session : batches (.ofList ["ab"]) session =
    [⟨[107, 97, 98], .ofList ["ab"]⟩, ⟨[0xC3, 0xA9], .ofList ["é"]⟩] :=
  rfl

theorem shown_of_single {octets : List UInt8} {v : String} (hv : v ≠ "") :
    Batch.shown ⟨octets, .ofList [v]⟩ =
      (Secrets.maskAll [v] (Utf8.decodeLossy octets)).flatMap String.utf8EncodeChar := by
  have hvalues : (Secrets.ofList [v]).values.filter (fun s => s != "") = [v] := by
    simp [Secrets.ofList, hv]
  rw [Batch.shown, Utf8.encode_eq, Batch.text, Secrets.redact, Secrets.redactWith,
    Secrets.maskingOrder, hvalues, List.mergeSort_singleton, String.toList_ofList,
    String.toList_ofList]

theorem shown_first : Batch.shown ⟨[107, 97, 98], .ofList ["ab"]⟩ = [107, 42, 42, 42, 42] := by
  rw [shown_of_single (by decide)]
  rfl

theorem shown_second : Batch.shown ⟨[0xC3, 0xA9], .ofList ["é"]⟩ = [42, 42, 42, 42] := by
  rw [shown_of_single (by decide)]
  rfl

end WriterExample

open WriterExample in
/-- Both sessions come to the same, and show neither secret. -/
theorem output_of_batches_joined :
    output (.ofList ["ab"]) session = [107, 42, 42, 42, 42, 42, 42, 42, 42] ∧
    (stretches session).map handed = (stretches joined).map handed ∧
    output (.ofList ["ab"]) joined = output (.ofList ["ab"]) session ∧
    ⟨[0xC3, 0xA9], .ofList ["é"]⟩ ∈ batches (.ofList ["ab"]) session ∧
    (∀ v ∈ (Secrets.ofList ["é"]).values, '*' ∉ v.toList) ∧
    ¬ Utf8.encode "é" <:+: Batch.shown ⟨[0xC3, 0xA9], .ofList ["é"]⟩ := by
  obtain ⟨houtput, -, -, hrecut, hhidden⟩ := output_of_batches (.ofList ["ab"]) session
  have hsame : (stretches session).map handed = (stretches joined).map handed := rfl
  have hbatch : ⟨[0xC3, 0xA9], .ofList ["é"]⟩ ∈ batches (.ofList ["ab"]) session :=
    List.mem_cons_of_mem _ List.mem_cons_self
  have hvalues : (Secrets.ofList ["é"]).values = ["é"] := by decide
  have hplain : ∀ v ∈ (Secrets.ofList ["é"]).values, '*' ∉ v.toList := by decide
  rw [batches_session, List.flatMap_cons, List.flatMap_cons, shown_first, shown_second] at houtput
  refine ⟨houtput, hsame, hrecut joined hsame, hbatch, hplain, hhidden _ hbatch hplain "é" ?_⟩
  rw [hvalues]
  exact List.mem_cons_self

end MaskingWriter

end SourceSync
