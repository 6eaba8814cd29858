import DumpLens.Proofs.Text.Lines
import DumpLens.Render.Page

/-! Style sheets without tags in them. The rules are taken one by one, so that each of their
names is looked at as the characters it is written with. -/

namespace DumpLens

variable {character : Char} {selector : Text}

/-- A literal has only the characters it is written with. -/
theorem not_mem_literal {characters : List Char} (absent : character ∉ characters) :
    character ∉ (String.ofList characters).toList := by
  rwa [String.toList_ofList]

/-- A rule without tags in its names. -/
structure StyleRule.TagFree (rule : StyleRule) : Prop where
  styleClass : '<' ∉ rule.styleClass.toList
  declarations : '<' ∉ rule.declarations.toList
  kind : '<' ∉ rule.kind.toList

namespace Style

theorem tagFree_rules (style : Style) : ∀ rule ∈ style.rules, rule.TagFree := by
  cases style with
  | standard =>
      unfold rules standardRules
      repeat refine List.forall_mem_cons.mpr ⟨⟨not_mem_literal (by decide +kernel),
        not_mem_literal (by decide +kernel), not_mem_literal (by decide +kernel)⟩, ?_⟩
      exact List.forall_mem_nil _
  | monokai =>
      unfold rules monokaiRules
      repeat refine List.forall_mem_cons.mpr ⟨⟨not_mem_literal (by decide +kernel),
        not_mem_literal (by decide +kernel), not_mem_literal (by decide +kernel)⟩, ?_⟩
      exact List.forall_mem_nil _

theorem tagFree_lineNumberRules : ∀ rule ∈ lineNumberRules, '<' ∉ rule.toList := by
  unfold lineNumberRules
  repeat refine List.forall_mem_cons.mpr ⟨not_mem_literal (by decide +kernel), ?_⟩
  exact List.forall_mem_nil _

theorem not_mem_within (noTag : '<' ∉ selector) {styleClass : String}
    (tagFree : '<' ∉ styleClass.toList) : '<' ∉ within selector styleClass := by
  unfold within
  split <;> simp [noTag, tagFree]

theorem not_mem_ruleText (noTag : '<' ∉ selector) {rule : StyleRule} (tagFree : rule.TagFree) :
    '<' ∉ ruleText selector rule := by
  simp [ruleText, not_mem_within noTag tagFree.styleClass, tagFree.declarations, tagFree.kind]

theorem not_mem_backgroundText (noTag : '<' ∉ selector) (style : Style) :
    '<' ∉ style.backgroundText selector := by
  cases style <;> simp [backgroundText, background, foreground?, noTag]

theorem not_mem_sheet (noTag : '<' ∉ selector) (style : Style) :
    '<' ∉ style.sheet selector := by
  apply Text.not_mem_unlines (by decide)
  intro line member
  simp only [List.mem_append, List.mem_map, List.mem_singleton] at member
  rcases member with ((⟨rule, member, rfl⟩ | rfl) | member) | ⟨rule, member, rfl⟩
  · exact tagFree_lineNumberRules rule member
  · have named := @not_mem_within selector noTag "hll" (by decide)
    cases style <;> simp [named, emphasis]
  · split at member
    · cases member
    · cases List.mem_singleton.mp member
      exact not_mem_backgroundText noTag style
  · exact not_mem_ruleText noTag (tagFree_rules style rule member)

end Style

end DumpLens
