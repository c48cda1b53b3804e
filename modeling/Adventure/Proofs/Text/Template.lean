import Adventure.Text.Template

/-!
# Templates and their values

A template without values stands as it is, whatever places it has. A template that is a place and
nothing else stands for the value; this is how a finished text is told as it is, even if it looks
like a template itself.
-/

namespace Adventure.Text

/-- Without values every place is left as it stands. -/
theorem fill_nil (s : List Char) : fill [] s = s := by
  induction s using fill.induct [] with
  | case1 => rw [fill]
  | case2 rest number after value hplace hvalue => cases hvalue
  | case3 rest number after hplace hvalue ih =>
    rw [fill, if_pos rfl]
    split
    · rw [List.getElem?_nil]
      dsimp only
      rw [ih]
    · rw [ih]
  | case4 rest hplace ih =>
    rw [fill, if_pos rfl]
    split
    · rename_i hfound
      rw [hplace] at hfound
      cases hfound
    · rw [ih]
  | case5 c rest hc ih => rw [fill, if_neg hc, ih]

theorem format_nil (template : String) : format template [] = template := by
  rw [format, fill_nil, String.ofList_toList]

/-- A place and nothing else stands for its value, which is not read as a template again. -/
theorem format_place (text : String) : format "\x7b0\x7d" [text] = text := by
  have hplace : place? ['0', '}'] = some (0, []) := by decide
  have hfill : fill [text] ['{', '0', '}'] = text.toList := by
    rw [fill, if_pos rfl]
    split
    · rename_i number after hfound
      cases hplace.symm.trans hfound
      exact (congrArg (text.toList ++ ·) (fill.eq_1 [text])).trans (List.append_nil _)
    · rename_i hnone
      cases hplace.symm.trans hnone
  have htemplate : "\x7b0\x7d".toList = ['{', '0', '}'] := by decide
  rw [format, htemplate, hfill, String.ofList_toList]

end Adventure.Text
