import PageHarvest.Job.Network
import PageHarvest.Proofs.Text.Lines

namespace PageHarvest.Network

/-- The candidates that are not blank are trimmed, and stay in order, however often they occur. -/
theorem usableProxies_eq (texts : List String) :
    usableProxies texts = (texts.filter fun t => !Text.allBlank t).map Text.trimmed := by
  have usable (t : String) : decide (Text.trimmed t ≠ "") = !Text.allBlank t := by
    rw [Bool.eq_iff_iff]
    simp [Text.trimmed_eq_empty_iff]
  rw [usableProxies, List.filter_map]
  simp only [Function.comp_def, usable]

/-- A script has a proxy to use just if the list it writes is not empty. -/
theorem hasProxies_iff (n : Network) : n.hasProxies = true ↔ n.proxyList ≠ [] := by
  rw [hasProxies, List.any_eq_true, proxyList, usableProxies_eq, ne_eq, List.map_eq_nil_iff,
    List.filter_eq_nil_iff]
  simp only [not_forall, not_not, exists_prop]

theorem hasProxies_congr {m n : Network} (h : m.proxyList.length = n.proxyList.length) :
    m.hasProxies = n.hasProxies := by
  rw [Bool.eq_iff_iff, hasProxies_iff, hasProxies_iff, ← List.length_pos_iff, h,
    List.length_pos_iff]

def IsUsable (t : String) : Prop :=
  Text.trimmed t = t ∧ t ≠ ""

theorem isUsable_of_mem {texts : List String} {t : String} (h : t ∈ usableProxies texts) :
    IsUsable t := by
  obtain ⟨hm, filled⟩ := List.mem_filter.1 h
  obtain ⟨s, -, rfl⟩ := List.mem_map.1 hm
  refine ⟨?_, by simpa using filled⟩
  rw [Text.trimmed, Text.trimmed, String.toList_ofList, Text.trim_trim]

theorem usableProxies_of_isUsable {texts : List String} (h : ∀ t ∈ texts, IsUsable t) :
    usableProxies texts = texts := by
  have trimmed : texts.map Text.trimmed = texts.map id :=
    List.map_congr_left fun t ht => (h t ht).1
  rw [usableProxies, trimmed, List.map_id, List.filter_eq_self]
  exact fun t ht => decide_eq_true (h t ht).2

theorem lineFeed_not_mem_usable {text t : String}
    (h : t ∈ usableProxies ((Text.lines text.toList).map String.ofList)) : '\n' ∉ t.toList := by
  obtain ⟨s, hs, rfl⟩ := List.mem_map.1 (List.mem_filter.1 h).1
  obtain ⟨line, hl, rfl⟩ := List.mem_map.1 hs
  rw [Text.trimmed, String.toList_ofList, String.toList_ofList]
  exact fun hm => Text.lineFeed_not_mem_of_mem_lines hl (Text.mem_of_mem_trim hm)

/-- Usable texts without a line feed are found again when they are written in lines. -/
theorem usableProxies_lines (texts : List String) (h : ∀ t ∈ texts, IsUsable t)
    (hl : ∀ t ∈ texts, '\n' ∉ t.toList) :
    usableProxies ((Text.lines ("\n".intercalate texts).toList).map String.ofList) = texts := by
  have lines : Text.lines ("\n".intercalate texts).toList = texts.map String.toList := by
    rw [String.toList_intercalate]
    refine Text.lines_joinWith fun l hm => ?_
    obtain ⟨t, ht, rfl⟩ := List.mem_map.1 hm
    have trimmed : Text.trim t.toList = t.toList := by
      rw [← String.toList_ofList (l := Text.trim t.toList)]
      exact congrArg String.toList (h t ht).1
    refine ⟨hl t ht, fun he => (h t ht).2 (String.toList_eq_nil_iff.1 he), fun hr => ?_⟩
    -- a carriage return is blank, so no trimmed text ends with one
    cases (Text.trim_eq_self_iff.1 trimmed).2 _ hr
  rw [lines, List.map_map]
  have back : String.ofList ∘ String.toList = id := funext fun t => String.ofList_toList
  rw [back, List.map_id, usableProxies_of_isUsable h]

theorem proxyList_withProxyText (n : Network) (text : String) :
    (n.withProxyText text).proxies = (n.withProxyText text).proxyList :=
  (usableProxies_of_isUsable fun _ ht => isUsable_of_mem ht).symm

theorem withProxyText_intercalate (n : Network) (text : String) :
    (n.withProxyText text).withProxyText ("\n".intercalate (n.withProxyText text).proxies) =
      n.withProxyText text := by
  have same := usableProxies_lines (usableProxies ((Text.lines text.toList).map String.ofList))
    (fun _ ht => isUsable_of_mem ht) fun _ ht => lineFeed_not_mem_usable ht
  simp only [withProxyText, same]

end PageHarvest.Network
