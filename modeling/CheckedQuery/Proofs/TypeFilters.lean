import CheckedQuery.Proofs.QuotedText
import CheckedQuery.Query.Building

/-!
# Filters by document type

A filter by document types names each of them in quotes.  Quoted text delimits itself, so
the text of the filter gives the types back, whatever characters they are made of.
-/

namespace CheckedQuery

/-- Quoted text ends at its closing quote, whatever it contains. -/
theorem Text.quoted_append_inj {left right leftRest rightRest : List Char}
    (same : quoted left ++ leftRest = quoted right ++ rightRest) :
    left = right ∧ leftRest = rightRest := by
  simp only [quoted, List.cons_append, List.append_assoc, List.nil_append, List.cons.injEq,
    true_and] at same
  have read := congrArg unquote? same
  rw [unquote?_escaped, unquote?_escaped] at read
  cases read
  exact ⟨rfl, rfl⟩

theorem ConditionalGroup.typeCondition_append_inj {left right : String}
    {leftRest rightRest : List Char}
    (same : (typeCondition left).toList ++ leftRest = (typeCondition right).toList ++ rightRest) :
    left = right ∧ leftRest = rightRest := by
  simp only [typeCondition, Text.quote, String.toList_append, String.toList_ofList,
    List.append_assoc] at same
  obtain ⟨sameName, sameRest⟩ := Text.quoted_append_inj (List.append_cancel_left same)
  exact ⟨String.toList_inj.mp sameName, sameRest⟩

namespace Query

open ConditionalGroup (typeCondition typeCondition_append_inj)

/-- The terms of a filter after the first, and its closing bracket. -/
def laterTerms : List String → List Char
  | [] => [']']
  | typeName :: types => " || ".toList ++ ((typeCondition typeName).toList ++ laterTerms types)

/-- The terms of a filter, and its closing bracket. -/
def terms : List String → List Char
  | [] => [']']
  | typeName :: types => (typeCondition typeName).toList ++ laterTerms types

theorem toList_intercalate_types (typeName : String) (types : List String) :
    (" || ".intercalate ((typeName :: types).map typeCondition)).toList ++ [']'] =
      (typeCondition typeName).toList ++ laterTerms types := by
  induction types generalizing typeName with
  | nil => rw [List.map_cons, List.map_nil, String.intercalate_singleton, laterTerms]
  | cons next types induction =>
      rw [List.map_cons, List.map_cons, String.intercalate_cons_cons, ← List.map_cons,
        String.toList_append, String.toList_append, List.append_assoc, List.append_assoc,
        induction, laterTerms]

theorem toList_text_filterByType (query : Query) (types : List String) :
    (query.filterByType types).text.toList = query.text.toList ++ '[' :: terms types := by
  cases types with
  | nil =>
      rw [filterByType, filter, extend, List.map_nil, String.intercalate_nil, terms]
      simp
  | cons typeName types =>
      rw [filterByType, filter, extend, terms, ← toList_intercalate_types]
      simp only [String.toList_append, List.append_assoc]
      rfl

theorem laterTerms_inj {left right : List String} (same : laterTerms left = laterTerms right) :
    left = right := by
  induction left generalizing right with
  | nil =>
      cases right with
      | nil => rfl
      | cons typeName types => cases same
  | cons typeName types induction =>
      cases right with
      | nil => cases same
      | cons otherName others =>
          obtain ⟨rfl, sameLater⟩ := typeCondition_append_inj (List.append_cancel_left same)
          rw [induction sameLater]

/-- Only the filter without types has no term. -/
theorem terms_cons_ne_nil (typeName : String) (types : List String) :
    terms (typeName :: types) ≠ terms [] := by
  intro same
  simp only [terms, typeCondition, String.toList_append] at same
  cases same

theorem terms_inj {left right : List String} (same : terms left = terms right) :
    left = right := by
  cases left with
  | nil =>
      cases right with
      | nil => rfl
      | cons typeName types => exact absurd same.symm (terms_cons_ne_nil typeName types)
  | cons typeName types =>
      cases right with
      | nil => exact absurd same (terms_cons_ne_nil typeName types)
      | cons otherName others =>
          obtain ⟨rfl, sameLater⟩ := typeCondition_append_inj same
          rw [laterTerms_inj sameLater]

/-- Two filters of a query read alike exactly when they name the same types in the same
order. -/
theorem text_filterByType_inj (query : Query) (left right : List String) :
    (query.filterByType left).text = (query.filterByType right).text ↔ left = right := by
  constructor
  · intro same
    have characters := congrArg String.toList same
    rw [toList_text_filterByType, toList_text_filterByType] at characters
    exact terms_inj (List.cons.inj (List.append_cancel_left characters)).2
  · rintro rfl
    rfl

/-- A name that looks like the end of its term and another term. -/
example : ((Query.start false).filterByType ["a\" || _type == \"b"]).text =
    "[_type == \"a\\\" || _type == \\\"b\"]" := by
  rfl

end Query

end CheckedQuery
