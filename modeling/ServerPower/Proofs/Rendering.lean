import Mathlib.Tactic.Common
import ServerPower.Explain

/-!
# Rendering of templates

A template whose places all ask for the text of a value that is given is rendered by putting the
texts into the places. So the failures that the program explains by its own templates have a known
kind and text, strict settings or not, and leave no log record.
-/

namespace ServerPower.Proofs
open Template

/-- A part of a template: text that stands for itself, or a place for the text of a named value. -/
inductive Chunk where
  | plain (text : String)
  | place (name : String)

namespace Chunk

def written : Chunk → List Char
  | plain text => text.toList
  | place name => '%' :: '(' :: (name.toList ++ [')', 's'])

def filled (values : Values) : Chunk → String
  | plain text => text
  | place name => ((values.lookup name).getD .null).display

/-- The text marks no place, and the value of a place is given under a name without parentheses. -/
def Fits (values : Values) : Chunk → Prop
  | plain text => '%' ∉ text.toList
  | place name => '(' ∉ name.toList ∧ ')' ∉ name.toList ∧ (values.lookup name).isSome

end Chunk

def filledIn (values : Values) : List Chunk → String
  | [] => ""
  | chunk :: chunks => chunk.filled values ++ filledIn values chunks

section Fill

variable {values : Values} {size fuel : Nat} {current : Option Json}

lemma fill_plain {c : Char} (hc : c ≠ '%') (s : List Char) :
    fill values size (fuel + 1) current (c :: s) =
      (fill values size fuel current s).map (c :: ·) := by
  rw [fill]
  · simp only [beq_iff_eq, hc, if_false]
    cases fill values size fuel current s <;> rfl
  · rintro s' he -
    exact hc he

lemma fill_text {text : List Char} (h : '%' ∉ text) (s : List Char) :
    fill values size (text.length + fuel) current (text ++ s) =
      (fill values size fuel current s).map (text ++ ·) := by
  induction text with
  | nil =>
    rw [List.length_nil, Nat.zero_add, List.nil_append]
    cases fill values size fuel current s <;> rfl
  | cons c text ih =>
    simp only [List.mem_cons, not_or] at h
    rw [List.length_cons, Nat.add_right_comm, List.cons_append, fill_plain (Ne.symm h.1), ih h.2]
    cases fill values size fuel current s <;> rfl

lemma splitName?_closed {name : List Char} (hopen : '(' ∉ name) (hclose : ')' ∉ name)
    (s : List Char) : splitName? 1 (name ++ ')' :: s) = some (name, s) := by
  induction name with
  | nil => rfl
  | cons c name ih =>
    simp only [List.mem_cons, not_or] at hopen hclose
    have h1 : (c == ')') = false := by simpa using fun h => hclose.1 h.symm
    have h2 : (c == '(') = false := by simpa using fun h => hopen.1 h.symm
    rw [List.cons_append, splitName?]
    simp only [h1, h2, Bool.false_and, Bool.false_eq_true, if_false, ih hopen.2 hclose.2,
      Option.map_some]

lemma readPlace_text {name : List Char} {v : Json} (hopen : '(' ∉ name) (hclose : ')' ∉ name)
    (hv : values.lookup (String.ofList name) = some v) (s : List Char) :
    readPlace values current ('(' :: (name ++ ')' :: 's' :: s)) =
      .ok ({ precision := none }, some v, 's' :: s) := by
  simp only [readPlace, readName, splitName?_closed hopen hclose, hv]
  rfl

lemma fill_place {name : List Char} {v : Json} (hopen : '(' ∉ name) (hclose : ')' ∉ name)
    (hv : values.lookup (String.ofList name) = some v) (s : List Char) :
    fill values size (fuel + 1) current ('%' :: '(' :: (name ++ ')' :: 's' :: s)) =
      (fill values size fuel none s).map (v.display.toList ++ ·) := by
  have hc : convert { precision := none } 's' (size - (s.length + 1)) v = .ok v.display.toList := by
    show (do
      Fit.checkSize 0
      return Fit.text { precision := none } v.display.toList : Except Failure (List Char)) = _
    simp [Fit.checkSize, Fit.memoryBound, Fit.text, Fit.pad, bind, Except.bind, pure, Except.pure]
  rw [fill]
  · simp only [beq_self_eq_true, if_true, readPlace_text hopen hclose hv, bind, Except.bind,
      List.length_cons, hc]
    cases fill values size fuel none s <;> rfl
  · intro s' _ he
    cases he

/-- Parts with characters that mark no place and places whose values are given become what their
parts become. -/
theorem fill_written {chunks : List Chunk} (h : ∀ chunk ∈ chunks, chunk.Fits values)
    (hfuel : (chunks.flatMap Chunk.written).length ≤ fuel) :
    fill values size fuel current (chunks.flatMap Chunk.written) =
      .ok (filledIn values chunks).toList := by
  induction chunks generalizing fuel current with
  | nil => cases fuel <;> rfl
  | cons chunk chunks ih =>
    have hrest := fun c hc => h c (List.mem_cons_of_mem _ hc)
    have hchunk := h chunk (List.mem_cons_self ..)
    rw [List.flatMap_cons, filledIn, String.toList_append]
    rw [List.flatMap_cons, List.length_append] at hfuel
    cases chunk with
    | plain text =>
      obtain ⟨n, rfl⟩ : ∃ n, fuel = text.toList.length + n := ⟨fuel - text.toList.length, by
        simp only [Chunk.written] at hfuel
        omega⟩
      simp only [Chunk.written, Nat.add_le_add_iff_left] at hfuel
      rw [Chunk.written, fill_text hchunk, ih hrest hfuel]
      rfl
    | place name =>
      obtain ⟨hopen, hclose, hsome⟩ := hchunk
      obtain ⟨v, hv⟩ := Option.isSome_iff_exists.mp hsome
      simp only [Chunk.written, List.length_cons, List.length_append, List.length_nil] at hfuel
      obtain ⟨n, rfl⟩ : ∃ n, fuel = n + 1 := ⟨fuel - 1, by omega⟩
      have hplace : Chunk.written (.place name) ++ chunks.flatMap Chunk.written =
          '%' :: '(' :: (name.toList ++ ')' :: 's' :: chunks.flatMap Chunk.written) := by
        simp [Chunk.written]
      rw [← String.ofList_toList (s := name)] at hv
      rw [hplace, fill_place hopen hclose hv, ih hrest (by omega)]
      rw [String.ofList_toList] at hv
      simp only [Chunk.filled, hv, Option.getD_some, Except.map]

theorem render_written {template : String} {chunks : List Chunk}
    (ht : template.toList = chunks.flatMap Chunk.written)
    (h : ∀ chunk ∈ chunks, chunk.Fits values) :
    render template values = .ok (filledIn values chunks) := by
  rw [render, ht, fill_written h (Nat.le_refl _), Except.map, String.ofList_toList]

end Fill

/-- A failure whose template is written in such parts has its kind and that text. -/
theorem build_written {kind : FailureKind} {chunks : List Chunk} {values : Values}
    (ht : kind.template.toList = chunks.flatMap Chunk.written)
    (h : ∀ chunk ∈ chunks, chunk.Fits values) (strict : Bool) :
    Failure.build strict kind values =
      pure ⟨kind, filledIn values chunks⟩ := by
  rw [Failure.build, Failure.explain_of_render (render_written ht h)]
  rfl

theorem build_invalidParameter (strict : Bool) (reason : String) :
    Failure.build strict .invalidParameter [("err", .text reason)] =
      pure ⟨.invalidParameter, reason⟩ := by
  have ht : FailureKind.invalidParameter.template.toList =
      [Chunk.place "err"].flatMap Chunk.written := by
    decide +kernel
  rw [build_written ht]
  · simp [filledIn, Chunk.filled]
  · simp [Chunk.Fits, List.lookup_cons]

theorem build_missingHardware (strict : Bool) (name : Json) :
    Failure.build strict .missingHardware [("name", name)] =
      pure ⟨.missingHardware, "Can not manage power of server hardware " ++ name.display ++
        ": no server hardware URI is set."⟩ := by
  have ht : FailureKind.missingHardware.template.toList =
      [Chunk.plain "Can not manage power of server hardware ", .place "name",
        .plain ": no server hardware URI is set."].flatMap Chunk.written := by
    decide +kernel
  rw [build_written ht]
  · simp [filledIn, Chunk.filled, String.append_assoc]
  · simp [Chunk.Fits, List.lookup_cons]

theorem build_manager (strict : Bool) (reason : String) :
    Failure.build strict .manager [("error", .text reason)] =
      pure ⟨.manager, "OneView exception occurred. Error: " ++ reason⟩ := by
  have ht : FailureKind.manager.template.toList =
      [Chunk.plain "OneView exception occurred. Error: ", .place "error"].flatMap
        Chunk.written := by
    decide +kernel
  rw [build_written ht]
  · simp [filledIn, Chunk.filled]
  · simp [Chunk.Fits, List.lookup_cons]

theorem build_transport (strict : Bool) (method : String) (uri : Json) (reason : String) :
    Failure.build strict .transport
        [("method", .text method), ("uri", uri), ("error", .text reason)] =
      pure ⟨.transport, method ++ " request to " ++ uri.display ++ " failed. Error: " ++
        reason⟩ := by
  have ht : FailureKind.transport.template.toList =
      [Chunk.place "method", .plain " request to ", .place "uri", .plain " failed. Error: ",
        .place "error"].flatMap Chunk.written := by
    decide +kernel
  rw [build_written ht]
  · simp [filledIn, Chunk.filled, List.lookup_cons, String.append_assoc]
  · simp [Chunk.Fits, List.lookup_cons]

theorem build_decoding (strict : Bool) (uri : Json) (reason : String) :
    Failure.build strict .decoding [("uri", uri), ("error", .text reason)] =
      pure ⟨.decoding,
        "Unable to decode response from " ++ uri.display ++ ". Error: " ++ reason⟩ := by
  have ht : FailureKind.decoding.template.toList =
      [Chunk.plain "Unable to decode response from ", .place "uri", .plain ". Error: ",
        .place "error"].flatMap Chunk.written := by
    decide +kernel
  rw [build_written ht]
  · simp [filledIn, Chunk.filled, List.lookup_cons, String.append_assoc]
  · simp [Chunk.Fits, List.lookup_cons]

theorem build_powerChange (strict : Bool) (state reason : String) :
    Failure.build strict .powerChange [("pstate", .text state), ("error", .text reason)] =
      pure ⟨.powerChange, "Failed to set server hardware power state to " ++ state ++ ". Error: " ++
        reason⟩ := by
  have ht : FailureKind.powerChange.template.toList =
      [Chunk.plain "Failed to set server hardware power state to ", .place "pstate",
        .plain ". Error: ", .place "error"].flatMap Chunk.written := by
    decide +kernel
  rw [build_written ht]
  · simp [filledIn, Chunk.filled, List.lookup_cons, String.append_assoc]
  · simp [Chunk.Fits, List.lookup_cons]

theorem build_powerTimeout (strict : Bool) (attempts : Int) (name : Json) (state : String) :
    Failure.build strict .powerTimeout
        [("attempts", .int attempts), ("name", name), ("pstate", .text state)] =
      pure ⟨.powerTimeout, "Timed out after " ++ (Json.int attempts).display ++
        " attempts waiting for server hardware " ++ name.display ++ " to reach power state " ++
        state ++ "."⟩ := by
  have ht : FailureKind.powerTimeout.template.toList =
      [Chunk.plain "Timed out after ", .place "attempts",
        .plain " attempts waiting for server hardware ", .place "name",
        .plain " to reach power state ", .place "pstate", .plain "."].flatMap Chunk.written := by
    decide +kernel
  rw [build_written ht]
  · simp [filledIn, Chunk.filled, List.lookup_cons, String.append_assoc]
  · simp [Chunk.Fits, List.lookup_cons]

end ServerPower.Proofs
