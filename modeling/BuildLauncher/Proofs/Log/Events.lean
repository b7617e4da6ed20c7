import BuildLauncher.Proofs.Log.Replacing

/-!
# The event in a line

Two lines for programs that are the same tell the same event (`event_eq_of_jsonLine`).
-/
namespace BuildLauncher.Log

/-- In a text whose first line has no line end in it the line is known. -/
theorem eq_of_append_newline {s t : String} {rest rest' : List Char} (hs : '\n' ∉ s.toList)
    (ht : '\n' ∉ t.toList) (h : s.toList ++ '\n' :: rest = t.toList ++ '\n' :: rest') : s = t := by
  have hline {s : String} (hs : '\n' ∉ s.toList) (rest : List Char) :
      (s.toList ++ '\n' :: rest).takeWhile (· ≠ '\n') = s.toList := by
    rw [List.takeWhile_append_of_pos fun c hc => decide_eq_true (ne_of_mem_of_not_mem hc hs)]
    simp
  have htaken := congrArg (List.takeWhile (· ≠ '\n')) h
  rw [hline hs, hline ht] at htaken
  exact String.toList_inj.mp htaken

/-- The line of an event, for programs or for people. -/
def Logging.lineOf (l : Logging) (json : Bool) (timestamp : String) (r : Record) : String :=
  if json then jsonLine l timestamp r else consoleLine l timestamp r

/-- Logging in detail, as it is set up for a launch. -/
def detailed (json : Bool) (image baseDir : String) : Logging :=
  (Logging.initial.configure ⟨true, json⟩).bindLaunch image baseDir

theorem tellsOf_detailed (image baseDir timestamp : String) {r : Record} (hr : r.fields = []) :
    TellsOf (some (image, baseDir)) r (jsonLine (detailed true image baseDir) timestamp r) := by
  refine tellsOf_jsonLine (fun launch hlaunch => ?_) (hasJson_launchFields (image, baseDir))
    (hr ▸ rfl) timestamp
  obtain rfl := Option.some.inj hlaunch
  rfl

/-- Lines for programs that are the same tell the same event. -/
theorem event_eq_of_jsonLine {image image' baseDir baseDir' timestamp : String} {r r' : Record}
    (hr : r.fields = []) (hr' : r'.fields = [])
    (h : jsonLine (detailed true image baseDir) timestamp r =
      jsonLine (detailed true image' baseDir') timestamp r') : r.event = r'.event := by
  obtain ⟨object, hread, -, hevent, -⟩ := (tellsOf_detailed image baseDir timestamp hr).object
  obtain ⟨object', hread', -, hevent', -⟩ := (tellsOf_detailed image' baseDir' timestamp hr').object
  rw [h, hread', Option.some.injEq, Value.object.injEq] at hread
  subst hread
  rw [hevent, Option.some.injEq, Value.text.injEq] at hevent'
  exact hevent'

end BuildLauncher.Log
