import Ros2WsDemo.Lib.ExactFloat
import Ros2WsDemo.Lib.JsonText
import Ros2WsDemo.Planner.NoRaise

/-!
# A plan in an answer

The planner may put its JSON object into prose or a code fence.  Whatever braces the object
contains, the text from the first to the last brace of the answer is the object, as long as
what surrounds it has none.
-/

namespace Ros2WsDemo.Planner

open Python

def BraceFree (s : Str) : Prop := 123 ∉ s ∧ 125 ∉ s

theorem BraceFree.append {s t : Str} (hs : BraceFree s) (ht : BraceFree t) :
    BraceFree (s ++ t) := by
  unfold BraceFree at *
  simp only [List.mem_append]
  tauto

theorem BraceFree.subset {s t : Str} (ht : BraceFree t) (h : s ⊆ t) : BraceFree s :=
  ⟨fun hs => ht.1 (h hs), fun hs => ht.2 (h hs)⟩

theorem braceFree_of_whitespace {s : Str} (h : ∀ x ∈ s, Json.isWhitespace x = true) :
    BraceFree s :=
  ⟨fun hs => absurd (h 123 hs) (by decide), fun hs => absurd (h 125 hs) (by decide)⟩

/-- The text between the outermost braces. -/
theorem jsonText_around {p t : Str} (hp : BraceFree p) (ht : BraceFree t) (mid : Str) :
    jsonText (p ++ (123 :: mid ++ [125]) ++ t) = 123 :: mid ++ [125] := by
  have hp' : 123 ∉ p.dropWhile isSpace := (hp.subset (List.dropWhile_suffix _).subset).1
  have ht' : 125 ∉ (t.reverse.dropWhile isSpace).reverse := by
    rw [List.mem_reverse]
    exact fun h => ht.2 (List.mem_reverse.mp ((List.dropWhile_suffix _).subset h))
  unfold jsonText
  rw [strip_around rfl rfl]
  generalize p.dropWhile isSpace = p' at hp' ⊢
  generalize (t.reverse.dropWhile isSpace).reverse = t' at ht' ⊢
  have hfind : Str.find (p' ++ (123 :: mid ++ [125]) ++ t') 123 = some p'.length := by
    simpa using find_append_cons (t := mid ++ 125 :: t') hp'
  have hrfind : Str.rfind (p' ++ (123 :: mid ++ [125]) ++ t') 125 =
      some (p' ++ 123 :: mid).length := by
    simpa using rfind_append_cons (p := p' ++ 123 :: mid) ht'
  simp only [hfind, hrfind]
  have hslice := slice_append p' (123 :: mid ++ [125]) t'
  simpa [Nat.add_assoc] using hslice

theorem decodeAnswer_around {F : Type} [Builtins F] (console : Console) {limit : ℕ}
    {p J t : Str} {entries : List (Str × Value F)}
    (hJ : Json.loads limit J = .ok (.dict entries)) (hp : BraceFree p) (ht : BraceFree t) :
    decodeAnswer console limit (p ++ J ++ t) = .ok (.dict entries) := by
  obtain ⟨ws, mid, ws', rfl, hws, hws', hmid⟩ := Json.loads_dict hJ
  have htext := jsonText_around (hp.append (braceFree_of_whitespace hws))
    ((braceFree_of_whitespace hws').append ht) mid
  simp only [List.append_assoc] at htext ⊢
  unfold decodeAnswer
  rw [htext, hmid]

/-- An answer that holds a JSON object is understood as this object. -/
theorem callOpenaiPlanner_object {F : Type} [Builtins F] (console : Console) {limit : ℕ}
    {create : ℕ → Except Str Completion} {p J t : Str} {entries : List (Str × Value F)}
    (hJ : Json.loads limit J = .ok (.dict entries)) (hp : BraceFree p) (ht : BraceFree t)
    (hanswer : requestText F console create = .ok (some (p ++ J ++ t))) :
    callOpenaiPlanner console limit create = .ok (.dict entries) := by
  unfold callOpenaiPlanner
  rw [hanswer]
  exact decodeAnswer_around console hJ hp ht

def isDict {F : Type} : Except Exn (Value F) → Bool
  | .ok (.dict _) => true
  | _ => false

theorem exists_of_isDict {F : Type} {x : Except Exn (Value F)} (h : isDict x = true) :
    ∃ entries, x = .ok (.dict entries) := by
  unfold isDict at h
  split at h
  · exact ⟨_, rfl⟩
  · cases h

/-- An object with a brace inside a string. -/
def stepsText : Str := "\x7b\"steps\":[\"\x7d\"]\x7d"

/-- The object in a code fence. -/
theorem callOpenaiPlanner_fenced : ∃ entries,
    Json.loads 10 stepsText = .ok (.dict entries) ∧
      callOpenaiPlanner plainConsole 10
        (fun _ => .ok (some [some (("Plan: ```json " : Str) ++ stepsText ++ ("```." : Str))])) =
          (.ok (.dict entries) : Except Exn (Value Exact)) := by
  obtain ⟨entries, hJ⟩ : ∃ entries,
      (Json.loads 10 stepsText : Except Exn (Value Exact)) = .ok (.dict entries) :=
    exists_of_isDict (by decide +kernel)
  exact ⟨entries, hJ, callOpenaiPlanner_object plainConsole hJ ⟨by decide, by decide⟩
    ⟨by decide, by decide⟩ rfl⟩

end Ros2WsDemo.Planner
