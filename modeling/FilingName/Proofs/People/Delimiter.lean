import FilingName.Proofs.Template.Composition

/-! The delimiter of a template for people. It stands behind the last bar, so it cannot hold a bar
itself and every other text can be a delimiter. No token is written with a bar, so splitting cuts
none of them in two. -/
namespace FilingName

namespace Template

private theorem bar_not_mem_text {token : Token} (h : token.WellFormed) : '|' ∉ token.text := by
  have hname : '|' ∉ token.name := fun hin => absurd (h.name_letters _ hin) (by decide)
  intro hin
  obtain ⟨name, chain⟩ := token
  cases chain with
  | none => simp [Token.text, hname] at hin
  | some chain =>
    have hchain : '|' ∉ chain := fun hc => absurd (h.chain_characters chain rfl _ hc) (by decide)
    simp [Token.text, hname, hchain] at hin

/-- What stands before a bar and what stands behind it are split one after the other. The bar is
part of the literal between them. -/
private theorem parse_append_bar (before after : Text) : parse (before ++ '|' :: after) =
    adjoin (parse before) (addLiteral '|' (parse after)) := by
  have hbar : parse ('|' :: after) = addLiteral '|' (parse after) :=
    parse_cons_of_none (token?_of_ne (by decide) after)
  rw [parse_append (noTokenAcross_of_not_mem (fun _ => bar_not_mem_text) before after), hbar]

private theorem tokens_parse_append_bar (before after : Text) :
    tokens (parse (before ++ '|' :: after)) = tokens (parse before) ++ tokens (parse after) := by
  rw [parse_append_bar, tokens_adjoin, tokens_addLiteral]

end Template

namespace People
open Template (Engine Token tokens)
variable {t delimiter : Text}

private theorem splitTemplate_of_not_mem (h : '|' ∉ t) : splitTemplate t = (t, []) := by
  rw [splitTemplate, Text.splitLast?_of_not_mem h, Option.getD_none]

private theorem splitTemplate_append_bar (h : '|' ∉ delimiter) (format : Text) :
    splitTemplate (format ++ '|' :: delimiter) = (format, delimiter) := by
  rw [splitTemplate, Text.splitLast?_append_cons h, Option.getD_some]

private theorem exists_append_bar (h : '|' ∈ t) :
    ∃ format delimiter, '|' ∉ delimiter ∧ t = format ++ '|' :: delimiter := by
  obtain ⟨last, hlast, rfl | ⟨before, hbefore⟩⟩ := Text.exists_isLastPiece '|' t
  · exact absurd h hlast
  · exact ⟨before, last, hlast, hbefore⟩

/-- Splitting undoes the joining of a template and a delimiter without a bar, and every text with a
bar is joined from the two that it is split into. Its tokens are those of the one and then those of
the other. A text without a bar has no delimiter. -/
theorem template_split_at_last_bar (engine : Engine) :
    let split (t : Text) := Operation.run engine (.splitTemplate (.text t))
    let parsed (t : Text) := Operation.run engine (.parseTemplate (.text t))
    (∀ format delimiter, '|' ∉ delimiter →
        split (format ++ '|' :: delimiter) = pure (.parts format delimiter)) ∧
      (∀ t, '|' ∈ t → ∃ format delimiter, split t = pure (.parts format delimiter) ∧
        t = format ++ '|' :: delimiter ∧ '|' ∉ delimiter ∧
        ∃ segments before after, parsed t = pure (.segments segments) ∧
          parsed format = pure (.segments before) ∧ parsed delimiter = pure (.segments after) ∧
          tokens segments = tokens before ++ tokens after) ∧
      ∀ t, '|' ∉ t → split t = pure (.parts t []) := by
  simp only [Operation.run_splitTemplate, Operation.run_parseTemplate]
  refine ⟨fun format delimiter hdelimiter => ?_, fun t ht => ?_, fun t ht => ?_⟩
  · rw [splitTemplate_append_bar hdelimiter]
  · obtain ⟨format, delimiter, hdelimiter, rfl⟩ := exists_append_bar ht
    refine ⟨format, delimiter, ?_, rfl, hdelimiter, _, _, _, rfl, rfl, rfl,
      Template.tokens_parse_append_bar format delimiter⟩
    rw [splitTemplate_append_bar hdelimiter]
  · rw [splitTemplate_of_not_mem ht]

/-- Two bars, the last one within what would be a token without it. -/
theorem surname_token_cut_by_bar :
    let engine : Engine := ⟨.null, .null⟩
    let t := "\x7bGIVEN\x7d|\x7bSUR|NAME\x7d".toList
    '|' ∉ "NAME\x7d".toList ∧ '|' ∈ t ∧ '|' ∉ "SURNAME".toList ∧
      Operation.run engine (.splitTemplate (.text t)) =
        pure (.parts "\x7bGIVEN\x7d|\x7bSUR".toList "NAME\x7d".toList) ∧
      (∃ segments, Operation.run engine (.parseTemplate (.text t)) = pure (.segments segments) ∧
        tokens segments = [⟨"GIVEN".toList, none⟩]) ∧
      Operation.run engine (.splitTemplate (.text "SURNAME".toList)) =
        pure (.parts "SURNAME".toList []) := by
  intro engine t
  have hdelimiter : '|' ∉ "NAME\x7d".toList := by decide
  have hbar : '|' ∈ t := by decide
  have hbarless : '|' ∉ "SURNAME".toList := by decide
  obtain ⟨hjoined, hsplit, hwhole⟩ := template_split_at_last_bar engine
  have hparts := hjoined "\x7bGIVEN\x7d|\x7bSUR".toList _ hdelimiter
  obtain ⟨format, delimiter, hsame, -, -, segments, before, after, hsegments, hbefore, hafter,
    htokens⟩ := hsplit t hbar
  obtain ⟨rfl, rfl⟩ :
      "\x7bGIVEN\x7d|\x7bSUR".toList = format ∧ "NAME\x7d".toList = delimiter := by
    simpa using hparts.symm.trans hsame
  have hread : tokens before ++ tokens after = [⟨"GIVEN".toList, none⟩] := by
    cases hbefore
    cases hafter
    decide +kernel
  exact ⟨hdelimiter, hbar, hbarless, hparts, ⟨segments, hsegments, htokens.trans hread⟩,
    hwhole _ hbarless⟩

end People
end FilingName
