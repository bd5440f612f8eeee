import Ros2WsDemo.Lib.Mailbox
import Ros2WsDemo.Lib.Python

/-!
# The voice instruction that is waiting

The callback for `/voice_text` and the main loop share one variable.  A callback runs
while the node is spun: by `spin_once` of the main loop, or by an instruction that is
being executed.  The moves of a run are arbitrary; a move that is not possible changes
nothing.
-/

namespace Ros2WsDemo.Voice

open Python

/-! ## The node -/

/-- Where the main loop is.  It comes back from `execute_instruction_with_gpt`. -/
inductive Control where
  | spinning
  | checking
  | taking (instr : Str)
  | executing (instr : Str)
  | stopped
  deriving DecidableEq

structure Node where
  control : Control
  pendingVoiceInstruction : Option Str
  deriving DecidableEq

def Node.init : Node := ⟨.spinning, none⟩

inductive Move where
  | voiceText (data : Str)
  | loop
  | shutdown

/-- The node is spun, so that a callback can run. -/
def Control.spins : Control → Bool
  | .spinning => true
  | .executing _ => true
  | _ => false

namespace Node

def voiceTextCallback (s : Node) (data : Str) : Node :=
  let instruction := data.strip
  if instruction = [] then s
  else { s with pendingVoiceInstruction := some instruction }

/-- The next step of the main loop. -/
def advance (s : Node) : Node :=
  match s.control with
  | .spinning => { s with control := .checking }
  | .checking =>
      match s.pendingVoiceInstruction with
      | none => { s with control := .spinning }
      | some instr => { s with control := .taking instr }
  | .taking instr => { control := .executing instr, pendingVoiceInstruction := none }
  | .executing _ => { s with control := .spinning }
  | .stopped => s

def step (s : Node) : Move → Node
  | .voiceText data => if s.control.spins then s.voiceTextCallback data else s
  | .loop => s.advance
  | .shutdown =>
      match s.control with
      | .spinning => { s with control := .stopped }
      | _ => s

def run (moves : List Move) : Node := moves.foldl step init

/-! ## What was received and what was executed -/

/-- What the moves of a run give, each in the state in which it is made. -/
def collect (out : Node → Move → List Str) (s : Node) : List Move → List Str
  | [] => []
  | move :: moves => out s move ++ collect out (s.step move) moves

/-- The text of a message that is delivered, stripped, unless nothing is left of it. -/
def arrival (s : Node) : Move → List Str
  | .voiceText data => if s.control.spins && data.strip ≠ [] then [data.strip] else []
  | _ => []

/-- The text that is handed to `execute_instruction_with_gpt`. -/
def execution (s : Node) : Move → List Str
  | .loop =>
      match s.control with
      | .taking instr => [instr]
      | _ => []
  | _ => []

def received (moves : List Move) : List Str := collect arrival init moves

def executed (moves : List Move) : List Str := collect execution init moves

theorem run_concat (moves : List Move) (move : Move) :
    run (moves ++ [move]) = (run moves).step move := by
  rw [run, List.foldl_append]
  rfl

theorem collect_concat (out : Node → Move → List Str) (moves : List Move) (move : Move) :
    collect out init (moves ++ [move]) = collect out init moves ++ out (run moves) move := by
  suffices h : ∀ s, collect out s (moves ++ [move]) =
      collect out s moves ++ out (moves.foldl step s) move from h init
  induction moves with
  | nil => exact fun s => List.append_nil _
  | cons m moves ih =>
      intro s
      rw [List.cons_append, collect, collect, ih, List.append_assoc]
      rfl

/-! ## What should hold -/

/-- Execution number `i` is of receipt number `receiptOf i`. -/
structure Latched (receiptOf : ℕ → ℕ) (moves : List Move) : Prop where
  subsequence : (executed moves).Sublist (received moves)
  ofReceipt : ∀ i text, (executed moves)[i]? = some text →
    (received moves)[receiptOf i]? = some text
  once : ∀ i j, i < j → j < (executed moves).length → receiptOf i < receiptOf j
  latest : received moves ≠ [] →
    (run moves).pendingVoiceInstruction = (received moves).getLast? ∨
      executed moves ≠ [] ∧
        receiptOf ((executed moves).length - 1) + 1 = (received moves).length

/-! ## The node as a mailbox -/

/-- The mailbox has been given the texts `rs`, and the texts `es` were taken out of it. -/
structure Refines (s : Node) (rs es : List Str) (m : Mailbox Str) : Prop where
  slot : m.slot = s.pendingVoiceInstruction
  received : m.received = rs
  taken : List.Forall₂ (fun i text => rs[i]? = some text) m.taken es
  taking : ∀ instr, s.control = .taking instr → s.pendingVoiceInstruction = some instr

section Refines

variable {s : Node} {rs es : List Str} {m : Mailbox Str}

theorem refines_init : Refines init [] [] .empty where
  slot := rfl
  received := rfl
  taken := .nil
  taking instr h := by cases h

theorem latched_of_refines {moves : List Move}
    (h : Refines (run moves) (Node.received moves) (executed moves) m) (hm : m.Valid)
    {receiptOf : ℕ → ℕ} (hreceipt : ∀ i n, m.taken[i]? = some n → receiptOf i = n) :
    Latched receiptOf moves where
  subsequence := Mailbox.sublist_of_increasing h.taken hm.increasing
  ofReceipt i text hi := by
    have hlt : i < m.taken.length := by
      rw [h.taken.length_eq]
      exact (List.getElem?_eq_some_iff.mp hi).1
    obtain ⟨hlt', rfl⟩ := List.getElem?_eq_some_iff.mp hi
    rw [hreceipt i m.taken[i] (List.getElem?_eq_getElem hlt)]
    exact h.taken.get hlt hlt'
  once i j hij hj := by
    rw [← h.taken.length_eq] at hj
    rw [hreceipt i _ (List.getElem?_eq_getElem (hij.trans hj)),
      hreceipt j _ (List.getElem?_eq_getElem hj)]
    exact List.pairwise_iff_getElem.mp hm.increasing i j (hij.trans hj) hj hij
  latest hne := by
    cases hslot : m.slot with
    | some a =>
        left
        rw [← h.slot, hslot, ← h.received, (hm.full a hslot).1]
    | none =>
        right
        rw [← h.received] at hne ⊢
        have hlast := hm.empty hslot hne
        rw [List.getLast?_eq_getElem?, h.taken.length_eq] at hlast
        have hlt := (List.getElem?_eq_some_iff.mp hlast).1
        refine ⟨?_, ?_⟩
        · rw [h.taken.length_eq] at hlt
          exact List.ne_nil_of_length_pos (by omega)
        · rw [hreceipt _ _ hlast]
          have := List.length_pos_of_ne_nil hne
          omega

/-- A step of the node that neither receives nor executes anything. -/
theorem Refines.of_idle (h : Refines s rs es m) {s' : Node}
    (hpending : s'.pendingVoiceInstruction = s.pendingVoiceInstruction)
    (htaking : ∀ instr, s'.control = .taking instr → s'.pendingVoiceInstruction = some instr) :
    Refines s' (rs ++ []) (es ++ []) m := by
  rw [List.append_nil, List.append_nil]
  exact ⟨h.slot.trans hpending.symm, h.received, h.taken, htaking⟩

/-- A delivered message is put into the mailbox, if there is something in it. -/
theorem Refines.voiceText (h : Refines s rs es m) (data : Str) :
    ∃ m' : Mailbox Str, Refines (s.step (.voiceText data)) (rs ++ s.arrival (.voiceText data))
        (es ++ s.execution (.voiceText data)) m' ∧
      (m' = m ∨ m' = m.put data.strip) := by
  unfold step arrival
  by_cases hspins : s.control.spins = true
  · simp only [hspins, if_true, Bool.true_and]
    unfold voiceTextCallback
    by_cases hempty : data.strip = []
    · simp only [hempty, if_true]
      exact ⟨m, h.of_idle rfl h.taking, Or.inl rfl⟩
    · simp only [hempty, if_false, ne_eq, not_false_eq_true, decide_true, if_true]
      refine ⟨m.put data.strip, ⟨rfl, by rw [Mailbox.put, h.received], ?_, ?_⟩, Or.inr rfl⟩
      · have hexecution : s.execution (.voiceText data) = [] := rfl
        rw [hexecution, List.append_nil]
        refine h.taken.imp fun i text hi => ?_
        rw [List.getElem?_append_left (List.getElem?_eq_some_iff.mp hi).1]
        exact hi
      · intro instr hinstr
        have hcontrol : s.control = .taking instr := hinstr
        rw [hcontrol] at hspins
        cases hspins
  · simp only [hspins, Bool.false_and]
    exact ⟨m, h.of_idle rfl h.taking, Or.inl rfl⟩

/-- The main loop takes the message where it has put the variable back to `None`. -/
theorem Refines.loop (h : Refines s rs es m) (hm : m.Valid) :
    ∃ m' : Mailbox Str,
      Refines (s.step .loop) (rs ++ s.arrival .loop) (es ++ s.execution .loop) m' ∧
        (m' = m ∨ m' = m.take) := by
  have hloop : s.step .loop = s.advance := rfl
  have harrival : s.arrival .loop = [] := rfl
  rw [hloop, harrival]
  simp only [advance, execution]
  cases hcontrol : s.control with
  | spinning =>
      exact ⟨m, h.of_idle rfl (fun instr hinstr => by cases hinstr), Or.inl rfl⟩
  | checking =>
      cases hpending : s.pendingVoiceInstruction with
      | none =>
          dsimp only
          exact ⟨m, h.of_idle hpending.symm (fun instr hinstr => by cases hinstr), Or.inl rfl⟩
      | some instr =>
          dsimp only
          refine ⟨m, h.of_idle hpending.symm fun instr' hinstr => ?_, Or.inl rfl⟩
          have heq : instr = instr' := Control.taking.inj hinstr
          rw [heq]
  | taking instr =>
      refine ⟨m.take, ?_, Or.inr rfl⟩
      have hslot : m.slot = some instr := h.slot.trans (h.taking instr hcontrol)
      have hlast := (hm.full instr hslot).1
      rw [h.received, List.getLast?_eq_getElem?] at hlast
      unfold Mailbox.take
      rw [hslot, h.received, List.append_nil]
      refine ⟨rfl, rfl, ?_, fun instr hinstr => by cases hinstr⟩
      exact List.rel_append h.taken (.cons hlast .nil)
  | executing instr =>
      exact ⟨m, h.of_idle rfl (fun instr hinstr => by cases hinstr), Or.inl rfl⟩
  | stopped => exact ⟨m, h.of_idle rfl h.taking, Or.inl rfl⟩

theorem Refines.shutdown (h : Refines s rs es m) :
    Refines (s.step .shutdown) (rs ++ s.arrival .shutdown) (es ++ s.execution .shutdown) m := by
  unfold step
  cases hcontrol : s.control with
  | spinning => exact h.of_idle rfl fun instr hinstr => by cases hinstr
  | _ => exact h.of_idle rfl h.taking

theorem taken_prefix_take (m : Mailbox Str) : m.taken <+: m.take.taken := by
  unfold Mailbox.take
  cases m.slot with
  | none => exact List.prefix_rfl
  | some _ => exact List.prefix_append _ _

/-- A step puts a message into the mailbox, takes one, or does neither. -/
theorem Refines.step (h : Refines s rs es m) (hm : m.Valid) (move : Move) :
    ∃ m' : Mailbox Str,
      Refines (s.step move) (rs ++ s.arrival move) (es ++ s.execution move) m' ∧ m'.Valid ∧
        m.taken <+: m'.taken := by
  cases move with
  | voiceText data =>
      obtain ⟨m', h', rfl | rfl⟩ := h.voiceText data
      · exact ⟨m', h', hm, List.prefix_rfl⟩
      · exact ⟨_, h', hm.put _, List.prefix_rfl⟩
  | loop =>
      obtain ⟨m', h', rfl | rfl⟩ := h.loop hm
      · exact ⟨m', h', hm, List.prefix_rfl⟩
      · exact ⟨_, h', hm.take, taken_prefix_take m⟩
  | shutdown => exact ⟨m, h.shutdown, hm, List.prefix_rfl⟩

end Refines

/-! ## Runs -/

/-- The whole run takes what its beginnings take. -/
theorem refines_run (moves : List Move) : ∃ m : Mailbox Str,
    Refines (run moves) (received moves) (executed moves) m ∧ m.Valid ∧
      ∀ before, before <+: moves → ∃ m' : Mailbox Str,
        Refines (run before) (received before) (executed before) m' ∧ m'.Valid ∧
          m'.taken <+: m.taken := by
  induction moves using List.reverseRecOn with
  | nil =>
      refine ⟨.empty, refines_init, Mailbox.valid_empty, fun before hbefore => ?_⟩
      rw [List.prefix_nil.mp hbefore]
      exact ⟨.empty, refines_init, Mailbox.valid_empty, List.prefix_rfl⟩
  | append_singleton moves move ih =>
      obtain ⟨m, h, hm, hbefore⟩ := ih
      obtain ⟨m', h', hm', htaken⟩ := h.step hm move
      rw [← run_concat, received, executed, ← collect_concat, ← collect_concat] at h'
      refine ⟨m', h', hm', fun before hprefix => ?_⟩
      rcases List.prefix_concat_iff.mp hprefix with rfl | hprefix
      · exact ⟨m', h', hm', List.prefix_rfl⟩
      · obtain ⟨m'', h'', hm'', htaken'⟩ := hbefore before hprefix
        exact ⟨m'', h'', hm'', htaken'.trans htaken⟩

/-- At every moment of a run the executed instructions are texts that were received,
in their order and each receipt once, and the latest receipt is pending or its execution
has begun.  One assignment of executions to receipts does for the whole run. -/
theorem voice_latch (moves : List Move) :
    ∃ receiptOf : ℕ → ℕ, ∀ before, before <+: moves → Latched receiptOf before := by
  obtain ⟨m, -, -, hbefore⟩ := refines_run moves
  refine ⟨fun i => m.taken.getD i 0, fun before hprefix => ?_⟩
  obtain ⟨m', h', hm', htaken⟩ := hbefore before hprefix
  refine latched_of_refines h' hm' fun i n hn => ?_
  obtain ⟨rest, hrest⟩ := htaken
  have hmem : m.taken[i]? = some n := by
    rw [← hrest, List.getElem?_append_left (List.getElem?_eq_some_iff.mp hn).1, hn]
  exact List.getD_eq_getElem?_getD.trans (by rw [hmem]; rfl)

/-- Two texts arrive while the first one is executed. -/
def stopMoves : List Move :=
  [.voiceText "go", .loop, .loop, .loop, .voiceText "wait", .voiceText "  ", .voiceText " stop ",
    .loop, .loop, .loop, .loop]

/-- The third receipt is executed next, the second never. -/
theorem voice_latch_stop :
    received stopMoves = ["go", "wait", "stop"].map Str.ofString ∧
      executed stopMoves = ["go", "stop"].map Str.ofString ∧
      ∃ receiptOf : ℕ → ℕ, Latched receiptOf stopMoves ∧ receiptOf 1 = 2 := by
  have hreceived : received stopMoves = ["go", "wait", "stop"].map Str.ofString := by
    decide +kernel
  have hexecuted : executed stopMoves = ["go", "stop"].map Str.ofString := by decide +kernel
  obtain ⟨receiptOf, hlatched⟩ := voice_latch stopMoves
  have hlast := hlatched stopMoves List.prefix_rfl
  refine ⟨hreceived, hexecuted, receiptOf, hlast, ?_⟩
  have hstop := hlast.ofReceipt 1 "stop" (by rw [hexecuted]; rfl)
  rw [hreceived] at hstop
  match hn : receiptOf 1, hstop with
  | 0, hstop => exact absurd hstop (by decide)
  | 1, hstop => exact absurd hstop (by decide)
  | 2, _ => rfl
  | n + 3, hstop => exact absurd hstop (by simp)

end Node

end Ros2WsDemo.Voice
