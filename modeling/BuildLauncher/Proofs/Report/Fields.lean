import BuildLauncher.Proofs.Report.Rendering

/-!
# The fields of a report

A success is shown to people with its operation and its fields. But for blanks and for characters
that never reach a screen, the text is made up of these, whole and in order (`render_fields`), however
long or wide they are, if each value has a text.
-/
namespace BuildLauncher.Report

open Text

/-- What is seen of a text: no blanks, and none of the characters that never reach a screen. -/
def seen (s : String) : List Char := visible (dropControls s.toList)

/-- What the first line of a success says. -/
def statusText (r : Report) : String := "OK" ++ r.op ++ if isDryRun r then "(dry run)" else ""

/-- The fields that are shown of a success which is no plan, in their order. -/
def shownFields (r : Report) : Fields :=
  if r.op = "build_image" then
    ["image", "context", "command"].map fun name => (name, dataOr r name "")
  else if r.op = "launch" then
    [("image", dataOr r "image" ""), ("target_dir", dataOr r "target_dir" ""),
      ("build_command", ((r.data.get? "build_command").filter Value.isTrue).getD (.text "(skipped)")),
      ("run_command", dataOr r "run_command" "")]
  else r.data.map fun (name, v) => (name, plainValue v)

/-- What the line of a field says. -/
def fieldText (f : String × Value) : String := f.1 ++ ":" ++ f.2.display

section Seen

variable {s : List Char} {text : String}

theorem dropControls_append (a b : List Char) :
    dropControls (a ++ b) = dropControls a ++ dropControls b := List.filter_append ..

theorem seen_append (a b : String) : seen (a ++ b) = seen a ++ seen b := by
  rw [seen, String.toList_append, dropControls_append, visible_append]
  rfl

theorem seen_ofList (s : List Char) : seen (String.ofList s) = visible (dropControls s) := by
  rw [seen, String.toList_ofList]

theorem seen_join (texts : List String) : seen (String.join texts) = texts.flatMap seen := by
  rw [seen, String.toList_join]
  induction texts with
  | nil => rfl
  | cons text rest ih =>
    rw [List.flatMap_cons, dropControls_append, visible_append, ih]
    rfl

theorem dropControls_visible (s : List Char) : dropControls (visible s) = visible (dropControls s) := by
  simp only [dropControls, visible, List.filter_filter, Bool.and_comm]

/-- What is seen of a text holds no character that is dropped. -/
theorem dropControls_seen (s : String) : dropControls (seen s) = seen s := by
  rw [seen, dropControls_visible]
  simp only [dropControls, List.filter_filter, Bool.and_self]

end Seen

/-- In none of the texts that a success shows a joiner or a selector stands in a word before the
first character that takes cells, and no joiner stands where `(dry run)` follows. -/
structure Measurable (r : Report) : Prop where
  op : Composed (dropControls r.op.toList)
  closed : isDryRun r = true → (dropControls r.op.toList).getLast? ≠ some zeroWidthJoiner
  fields : ∀ f ∈ shownFields r,
    Composed (dropControls f.1.toList) ∧ Composed (dropControls f.2.display.toList)

/-- Can a value be shown where lists and objects are shown as JSON? -/
def isPlain : Value → Bool
  | .list items => (Value.list items).hasLine
  | .object fields => (Value.object fields).hasLine
  | v => v.isWritable

/-- A success can be shown if, moreover, its values can be written. -/
structure Presentable (r : Report) : Prop extends Measurable r where
  written : ∀ f ∈ shownFields r, f.2.isWritable = true
  plain : r.op ≠ "build_image" → r.op ≠ "launch" → ∀ f ∈ r.data, isPlain f.2 = true

section Lines

variable {r : Report} {name : String} {v : Value}

/-- Blanks before a text leave its words. -/
theorem composed_indented {s : List Char} (h : Composed s) : Composed (' ' :: ' ' :: s) := by
  have hblank : isBlank ' ' = true := by decide
  have hindented (s : List Char) (h : Composed s) : Composed (' ' :: s) :=
    (composed_append (a := []) hblank).mpr ⟨composed_nil, h⟩
  exact hindented _ (hindented _ h)

/-- Blanks before a text are not seen. -/
theorem visible_styled_indented (text : String) : visible (styled ("  " ++ text)).chars = seen text := by
  have hindent : seen "  " = [] := by decide
  have happend := seen_append "  " text
  rw [hindent, List.nil_append] at happend
  exact happend

theorem visible_fieldLine (hname : Composed (dropControls name.toList))
    (hvalue : Composed (dropControls v.display.toList)) :
    visible (fieldLine name v) = seen (fieldText (name, v)) := by
  have hkey : dropControls ("  " ++ name ++ ":").toList =
      ' ' :: ' ' :: (dropControls name.toList ++ [':']) := by
    rw [String.toList_append, String.toList_append, dropControls_append, dropControls_append]
    rfl
  have hkeyWhole : ShownWhole (styled ("  " ++ name ++ ":")) :=
    shown_styled (hkey ▸ composed_indented (hname.concat (by decide)))
  have hkeyEnd : (styled ("  " ++ name ++ ":")).chars.getLast? ≠ some zeroWidthJoiner := by
    have hchars : (styled ("  " ++ name ++ ":")).chars =
        (' ' :: ' ' :: dropControls name.toList) ++ [':'] := hkey
    rw [hchars, List.getLast?_concat]
    decide
  have hline (shown : Styled) (hshown : ShownWhole shown)
      (hchars : shown.chars = dropControls v.display.toList) :
      visible (paragraph [styled ("  " ++ name ++ ":"), shown]) = seen (fieldText (name, v)) := by
    rw [visible_paragraph (by simp [hkeyWhole, hshown]) (by simpa using hkeyEnd)]
    have hvisible : visible (styled ("  " ++ name ++ ":")).chars = seen (name ++ ":") := by
      rw [String.append_assoc, visible_styled_indented]
    have htext : seen (fieldText (name, v)) = seen (name ++ ":") ++ seen v.display := seen_append _ _
    rw [List.flatMap_cons, List.flatMap_singleton, hvisible, hchars, htext]
    rfl
  unfold fieldLine
  dsimp only
  split
  · exact hline _ (shown_styled hvalue) rfl
  · exact hline _ (shown_literal hvalue) rfl

theorem visible_statusLine (h : Measurable r) : visible (statusLine r) = seen (statusText r) := by
  have hop : dropControls ("  " ++ r.op).toList = ' ' :: ' ' :: dropControls r.op.toList := by
    rw [String.toList_append, dropControls_append]
    rfl
  have hmarkWhole : ShownWhole (styled "OK") := shown_styled (by decide)
  have hopWhole : ShownWhole (styled ("  " ++ r.op)) := shown_styled (hop ▸ composed_indented h.op)
  have hnoteWhole : ShownWhole (styled "  (dry run)") := shown_styled (by decide)
  have hmarkEnd : (styled "OK").chars.getLast? ≠ some zeroWidthJoiner := by decide
  have hopSeen := visible_styled_indented r.op
  have hmarkSeen : visible (styled "OK").chars = seen "OK" := rfl
  have hnoteSeen : visible (styled "  (dry run)").chars = seen "(dry run)" := by decide
  have hnone : seen "" = [] := rfl
  rw [statusLine, statusText]
  cases hdry : isDryRun r with
  | false =>
    simp only [Bool.false_eq_true, if_false, List.append_nil]
    rw [visible_paragraph (by simp [hmarkWhole, hopWhole]) (by simpa using hmarkEnd)]
    simp only [List.flatMap_cons, List.flatMap_nil, hmarkSeen, hopSeen, seen_append, hnone,
      List.append_nil]
  | true =>
    have hopEnd : (styled ("  " ++ r.op)).chars.getLast? ≠ some zeroWidthJoiner := by
      have hchars : (styled ("  " ++ r.op)).chars = [' ', ' '] ++ dropControls r.op.toList := hop
      rw [hchars, List.getLast?_append]
      cases hlast : (dropControls r.op.toList).getLast? with
      | none => decide
      | some c => exact fun heq => h.closed hdry (hlast.trans heq)
    simp only [if_true, List.cons_append, List.nil_append]
    rw [visible_paragraph (by simp [hmarkWhole, hopWhole, hnoteWhole]) (by simp [hmarkEnd, hopEnd])]
    simp only [List.flatMap_cons, List.flatMap_nil, hmarkSeen, hopSeen, hnoteSeen, seen_append,
      List.append_nil, List.append_assoc]

/-- Without detail a success is shown as its first line and the lines of its fields. -/
theorem render_eq (hok : r.ok = true) (hop : r.op ≠ "plan") :
    render r false = .ok (String.ofList (dropEndWhile (· = '\n')
      (statusLine r ++ (shownFields r).flatMap fun f => fieldLine f.1 f.2))) := by
  unfold render shownFields
  simp only [hok, Bool.not_true, Bool.false_eq_true, if_false, hop]
  split
  · simp only [renderBuild, List.flatMap_map]
    rfl
  · split
    · have hfields (shown : Value) : statusLine r ++ ["image", "target_dir"].flatMap (dataLine r) ++
          fieldLine "build_command" shown ++ dataLine r "run_command" =
          statusLine r ++ [("image", dataOr r "image" ""), ("target_dir", dataOr r "target_dir" ""),
            ("build_command", shown), ("run_command", dataOr r "run_command" "")].flatMap
              fun f => fieldLine f.1 f.2 := by
        simp only [List.flatMap_cons, List.flatMap_nil, List.append_assoc, List.append_nil, dataLine]
      simp only [renderLaunch, hfields]
      cases r.data.get? "build_command" with
      | none => rfl
      | some v => cases hv : v.isTrue <;> simp only [Option.filter_some, hv] <;> rfl
    · simp only [renderOther, List.flatMap_map]
      rfl

end Lines

/-- A success that is no plan is shown whole: but for blanks and for characters that never reach a
screen, the text is its operation and its fields, each with its name and value, in order. -/
theorem render_fields {r : Report} (hok : r.ok = true) (hop : r.op ≠ "plan") (h : Presentable r) :
    ∃ text, render r false = .ok text ∧
      seen text = seen (statusText r ++ String.join ((shownFields r).map fieldText)) := by
  refine ⟨_, render_eq hok hop, ?_⟩
  let lines := statusLine r ++ (shownFields r).flatMap fun f => fieldLine f.1 f.2
  let all := statusText r ++ String.join ((shownFields r).map fieldText)
  have hfields : (shownFields r).flatMap (fun f => visible (fieldLine f.1 f.2)) =
      (shownFields r).flatMap fun f => seen (fieldText f) :=
    congrArg List.flatten (List.map_congr_left fun f hf =>
      visible_fieldLine (h.fields f hf).1 (h.fields f hf).2)
  have hlines : visible lines = seen all := by
    rw [visible_append, visible_statusLine h.toMeasurable, visible_flatMap, hfields, seen_append,
      seen_join, List.flatMap_map]
  have hbreaks : visible (dropEndWhile (· = '\n') lines) = visible lines := by
    obtain ⟨ending, hending, hbreak⟩ := exists_dropEndWhile_append (· = '\n') lines
    have hblank : visible ending = [] := visible_eq_nil_iff.mpr fun c hc => by
      obtain rfl : c = '\n' := by simpa using hbreak c hc
      decide
    calc visible (dropEndWhile (· = '\n') lines)
      _ = visible (dropEndWhile (· = '\n') lines) ++ visible ending := by rw [hblank, List.append_nil]
      _ = visible lines := by rw [← visible_append, ← hending]
  calc seen (String.ofList (dropEndWhile (· = '\n') lines))
    _ = dropControls (visible (dropEndWhile (· = '\n') lines)) := by
      rw [seen, String.toList_ofList, dropControls_visible]
    _ = seen all := by rw [hbreaks, hlines, dropControls_seen]

/-- A dry run for an image whose name holds a joined emoji, a wide character, brackets and the code of
an emoji. -/
def joinedReport : Report where
  ok := true
  op := "build_image"
  data := [("image", .text "👩\u200D🚀界[b]:x:"), ("context", .text "/srv/a\tb"), ("command", .null)]
  warnings := []
  error := none
  info := some [("dry_run", .bool true)]

theorem render_fields_joined :
    joinedReport.ok = true ∧ joinedReport.op ≠ "plan" ∧ Presentable joinedReport ∧
      ∃ text, render joinedReport false = .ok text ∧ seen text =
        seen (statusText joinedReport ++ String.join ((shownFields joinedReport).map fieldText)) := by
  have hop : joinedReport.op ≠ "plan" := by decide
  have hmeasurable : Measurable joinedReport :=
    ⟨by decide +kernel, fun _ => by decide +kernel, by decide +kernel⟩
  have hpresentable : Presentable joinedReport :=
    ⟨hmeasurable, by decide +kernel, fun hbuild => absurd rfl hbuild⟩
  exact ⟨rfl, hop, hpresentable, render_fields rfl hop hpresentable⟩

/-- A success that is no plan and is not shown whole. -/
def ShownInPart (r : Report) : Prop :=
  r.ok = true ∧ r.op ≠ "plan" ∧ (render r false).toOption.map seen ≠
    some (seen (statusText r ++ String.join ((shownFields r).map fieldText)))

/-- Texts of other lengths are not the same. -/
theorem shownInPart_of_length {r : Report} (hok : r.ok = true) (hop : r.op ≠ "plan")
    (h : (visible (dropControls (dropEndWhile (· = '\n')
        (statusLine r ++ (shownFields r).flatMap fun f => fieldLine f.1 f.2)))).length ≠
      (seen (statusText r) ++ (shownFields r).flatMap fun f => seen (fieldText f)).length) :
    ShownInPart r := by
  refine ⟨hok, hop, fun heq => h ?_⟩
  rw [render_eq hok hop] at heq
  replace heq := congrArg List.length (Option.some.inj heq)
  rwa [seen_ofList, seen_append, seen_join, List.flatMap_map] at heq

/-- A word that starts with a joiner: a line is filled without its first wide character, and cropped
with it. -/
def croppedImage : List Char :=
  '\u200D' :: (List.replicate 4 '界' ++ List.replicate 114 'a' ++ [' ', 'x'])

def croppedReport : Report where
  ok := true
  op := "build_image"
  data := [("image", .text (String.ofList croppedImage))]
  warnings := []
  error := none
  info := none

theorem shownInPart_image : ShownInPart croppedReport := by
  have hop : croppedReport.op ≠ "plan" := by decide
  have hfields : shownFields croppedReport =
      [("image", .text (String.ofList croppedImage)), ("context", .text ""), ("command", .text "")] := rfl
  have hline : fieldLine "image" (.text (String.ofList croppedImage)) =
      paragraph [styled "  image:", .whole (dropControls croppedImage)] := by
    simp [fieldLine, isStyledField, Value.display, styled]
  have himage : seen (fieldText ("image", .text (String.ofList croppedImage))) =
      seen "image" ++ seen ":" ++ visible (dropControls croppedImage) := by
    rw [fieldText, seen_append, seen_append, Value.display, seen_ofList croppedImage]
  refine shownInPart_of_length rfl hop ?_
  rw [hfields]
  simp only [List.flatMap_cons, List.flatMap_nil]
  rw [hline, himage]
  decide +kernel

/-- An operation that ends in a joiner: its line is filled without the blank that follows. -/
def croppedOp : List Char := List.replicate 104 'x' ++ ['\u200D']

def croppedDryRun : Report where
  ok := true
  op := String.ofList croppedOp
  data := []
  warnings := []
  error := none
  info := some [("dry_run", .bool true)]

theorem shownInPart_dryRun : ShownInPart croppedDryRun := by
  have hop : croppedDryRun.op ≠ "plan" := by decide +kernel
  have hfields : shownFields croppedDryRun = [] := by
    unfold shownFields
    rw [if_neg (by decide +kernel), if_neg (by decide +kernel)]
    rfl
  have hline : statusLine croppedDryRun = paragraph
      [styled "OK", .whole (dropControls ("  ".toList ++ croppedOp)), styled "  (dry run)"] := by
    have hop : (String.ofList croppedOp).toList = croppedOp := String.toList_ofList
    have hpiece : styled ("  " ++ String.ofList croppedOp) =
        .whole (dropControls ("  ".toList ++ croppedOp)) := by
      rw [styled, String.toList_append, hop]
    rw [← hpiece]
    rfl
  have hstatus : seen (statusText croppedDryRun) =
      seen "OK" ++ visible (dropControls croppedOp) ++ seen "(dry run)" := by
    rw [← seen_ofList croppedOp, ← seen_append, ← seen_append]
    rfl
  refine shownInPart_of_length rfl hop ?_
  rw [hfields, hline, hstatus]
  decide +kernel

/-- Joiners at the borders of words and styles are measured in two ways, and lines with them may lose
what stands at their end. -/
theorem render_cropped : ShownInPart croppedReport ∧ ShownInPart croppedDryRun :=
  ⟨shownInPart_image, shownInPart_dryRun⟩

end BuildLauncher.Report
