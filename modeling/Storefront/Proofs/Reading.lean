import Storefront.AccessToken
import Storefront.Proofs.Records

/-! What a token holds that was read: its text passed its check. -/
namespace Storefront

open Schema

theorem AccessToken.token_ne {v : Json.Value} {t : AccessToken} (h : AccessToken.read v = .ok t) :
    t.token ≠ "" := by
  obtain ⟨r, hread, rfl⟩ := Except.map_eq_ok_iff.mp h
  obtain ⟨c, hfound, hc⟩ := Shape.exists_declared hread (by decide) (List.mem_cons_self ..)
  obtain ⟨d, hd, rfl⟩ := Field.takes_cell.mp hc
  obtain ⟨text, -, rfl, htext⟩ := Field.takes_required_text.mp hd
  obtain ⟨hwhole, hempty⟩ := htext rfl
  obtain ⟨token, rfl⟩ := Str.isWhole_iff.mp hwhole
  have hread : r.text? "access_token" = some token := by
    have hname : r.declared.get? "access_token" = some (.scalar (.text token)) := hfound
    simp [Record.text?, hname]
  intro hnil
  have htoken : token = "" := by simpa [AccessToken.token, hread] using hnil
  exact hempty (congrArg Str.ofString htoken)

end Storefront
