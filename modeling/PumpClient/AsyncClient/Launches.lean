import Mathlib.Logic.Relation
import PumpClient.AsyncClient.DiscoveredRoutes
import PumpClient.Machine.Lineage
import PumpClient.Sdk.PumpQuote

open machine Relation

namespace pump_rust_client.async_client

open state state.pump_amm sdk sdk.PumpSdk errors accounts

/-- The curves there are, by the mint of their coin. -/
abbrev Curves := Pubkey → Option BondingCurve

/-- A coin descends from the one it is quoted in. A mayhem coin is no quote. -/
def quote_descent : Descent Pubkey BondingCurve where
  parent curve := resolve_quote_mint curve.quote_mint
  depth curve := curve.depth.toNat
  Fertile curve := curve.is_mayhem_mode = false

namespace Curves

/-- A mint that is new: with no curve, and none quoted in it. -/
structure New (curves : Curves) (mint : Pubkey) : Prop where
  ne_default : mint ≠ Pubkey.default
  no_curve : curves mint = none
  unquoted : ∀ m curve, curves m = some curve → resolve_quote_mint curve.quote_mint ≠ mint

/-- What `create_v2` and all that follows it make of the curves. -/
inductive Step (limit : UInt8) (curves : Curves) : Curves → Prop
  /-- A coin quoted in a listed mint, which is no coin. -/
  | create {mint quote_mint creator : Pubkey} {global : Global} {quote_control : Option QuoteControl}
      {seed creator_fee_bps : UInt64} {mayhem_mode cashback : Bool}
      (hmint : curves.New mint) (hself : resolve_quote_mint quote_mint ≠ mint)
      (hroot : curves (resolve_quote_mint quote_mint) = none)
      (hseed : initial_virtual_quote_reserves global quote_control quote_mint = some seed) :
      Step limit curves (Function.update curves mint (some (initial_bonding_curve global creator
        quote_mint seed mayhem_mode cashback creator_fee_bps)))
  /-- A coin quoted in a coin. The curve stores the depth that its preview leaves
      out. -/
  | create_pump_quote {mint quote_mint creator : Pubkey} {global : Global}
      {quote_control : Option QuoteControl} {quote_curve : BondingCurve}
      {quote_pool : Option (Pool × UInt64 × UInt64)} {seed creator_fee_bps : UInt64} {depth : UInt8}
      {cashback : Bool} (hmint : curves.New mint) (hquote : curves quote_mint = some quote_curve)
      (hlimit : global.max_curve_depth ≤ limit)
      (hseed : pump_quote_initial_virtual_quote_reserves global quote_control quote_curve
        quote_pool = .ok (seed, depth)) :
      Step limit curves (Function.update curves mint (some
        { initial_bonding_curve global creator quote_mint seed false cashback creator_fee_bps with
          depth }))
  /-- Whatever a curve goes through keeps its quote, its depth and its mode. -/
  | settle {mint : Pubkey} {curve curve' : BondingCurve} (hcurve : curves mint = some curve)
      (hquote : curve'.quote_mint = curve.quote_mint) (hdepth : curve'.depth = curve.depth)
      (hmayhem : curve'.is_mayhem_mode = curve.is_mayhem_mode) :
      Step limit curves (Function.update curves mint (some curve'))

/-- Every coin is one deeper than the coin it is quoted in, down to the limit. -/
structure Sound (limit : UInt8) (curves : Curves) : Prop where
  rooted : quote_descent.Rooted curves
  depth_le : ∀ mint curve, curves mint = some curve → curve.depth ≤ limit
  no_default : curves Pubkey.default = none

variable {limit : UInt8} {curves later : Curves} {mint : Pubkey} {curve : BondingCurve}

theorem sound_empty (limit : UInt8) : Sound limit fun _ => none := by
  constructor
  · rintro key record ⟨⟩
  · rintro mint curve ⟨⟩
  · rfl

/-- A new coin that fits. -/
theorem Sound.new (sound : curves.Sound limit) (hmint : curves.New mint)
    (hfits : quote_descent.Fits curves curve) (hself : quote_descent.parent curve ≠ mint)
    (hdepth : curve.depth ≤ limit) :
    Sound limit (Function.update curves mint (some curve)) ∧
      quote_descent.Grows curves (Function.update curves mint (some curve)) := by
  refine ⟨⟨sound.rooted.new hmint.no_curve hmint.unquoted hfits hself, ?_, ?_⟩,
    Descent.grows_new hmint.no_curve hmint.unquoted⟩
  · intro m other hother
    by_cases hm : m = mint
    · subst hm
      rw [Function.update_self] at hother
      cases hother
      exact hdepth
    · rw [Function.update_of_ne hm] at hother
      exact sound.depth_le m other hother
  · rw [Function.update_of_ne hmint.ne_default.symm]
    exact sound.no_default

theorem Step.sound (sound : curves.Sound limit) (hstep : Step limit curves later) :
    later.Sound limit ∧ quote_descent.Grows curves later := by
  cases hstep with
  | create hmint hself hroot =>
    refine sound.new hmint (.root rfl ?_) ?_ (UInt8.zero_le)
    · change curves (resolve_quote_mint (resolve_quote_mint _)) = none
      rw [resolve_quote_mint_idem]
      exact hroot
    · change resolve_quote_mint (resolve_quote_mint _) ≠ _
      rw [resolve_quote_mint_idem]
      exact hself
  | @create_pump_quote _ quote_mint _ _ _ _ _ _ _ _ _ hmint hquote hlimit hseed =>
    obtain ⟨_, _, _, seed⟩ := pumpQuoteSeed_of_ok hseed
    have hresolve : resolve_quote_mint (resolve_quote_mint quote_mint) = quote_mint := by
      rw [resolve_quote_mint_idem, resolve_quote_mint, if_neg]
      rintro rfl
      rw [sound.no_default] at hquote
      cases hquote
    refine sound.new hmint (.child seed.depth_eq ?_ seed.not_mayhem) ?_
      (UInt8.le_trans seed.depth_le hlimit)
    · change curves (resolve_quote_mint (resolve_quote_mint quote_mint)) = _
      rw [hresolve]
      exact hquote
    · change resolve_quote_mint (resolve_quote_mint quote_mint) ≠ _
      rw [hresolve]
      rintro rfl
      rw [hmint.no_curve] at hquote
      cases hquote
  | @settle mint curve curve' hcurve hquote hdepth hmayhem =>
    have halike : quote_descent.Alike curve curve' := by
      refine ⟨?_, ?_, ?_⟩
      · exact congrArg resolve_quote_mint hquote
      · exact congrArg UInt8.toNat hdepth
      · exact hmayhem.trans
    refine ⟨⟨sound.rooted.kept hcurve halike, ?_, ?_⟩, Descent.grows_kept hcurve halike⟩
    · intro m other hother
      by_cases hm : m = mint
      · subst hm
        rw [Function.update_self] at hother
        cases hother
        rw [hdepth]
        exact sound.depth_le _ _ hcurve
      · rw [Function.update_of_ne hm] at hother
        exact sound.depth_le m other hother
    · have hne : mint ≠ Pubkey.default := by
        rintro rfl
        rw [sound.no_default] at hcurve
        cases hcurve
      rw [Function.update_of_ne hne.symm]
      exact sound.no_default

theorem run_sound (sound : curves.Sound limit) (hrun : ReflTransGen (Step limit) curves later) :
    later.Sound limit ∧ quote_descent.Grows curves later := by
  induction hrun with
  | refl => exact ⟨sound, Descent.Grows.refl curves⟩
  | tail _ hstep ih =>
    obtain ⟨hsound, hgrows⟩ := ih
    obtain ⟨hsound', hgrows'⟩ := hstep.sound hsound
    exact ⟨hsound', hgrows.trans hgrows'⟩

end Curves

section

variable [Solana] [AccountDeserialize BondingCurve]

/-- A cluster with these curves and no others. -/
structure Snapshot.Shows (snapshot : Snapshot) (curves : Curves) : Prop where
  curve : ∀ mint curve, curves mint = some curve →
    ∃ account, snapshot.curve_account mint = some account ∧
      decode_bonding_curve account.data = .ok curve
  no_curve : ∀ mint, curves mint = none → snapshot.curve_account mint = none

variable {snapshot : Snapshot} {curves : Curves} {mint root : Pubkey}

/-- A line of descent is the quote chain on chain. -/
theorem Snapshot.Shows.chain (hshows : snapshot.Shows curves) {coins : List Pubkey}
    (hline : Chain (quote_descent.Up curves) mint coins root) :
    ∃ hops, hops.map Prod.fst = coins ∧ Chain snapshot.Quotes mint hops root ∧
      ∀ hop ∈ hops, curves hop.1 = some hop.2 := by
  induction hline with
  | nil => exact ⟨[], rfl, .nil, by simp⟩
  | @cons _ coins coin _ _ head _ ih =>
    obtain ⟨rfl, curve, hcurve, rfl⟩ := head
    obtain ⟨hops, hcoins, hchain, hcurves⟩ := ih
    refine ⟨(coin, curve) :: hops, by rw [List.map_cons, hcoins],
      .cons ⟨rfl, hshows.curve coin curve hcurve, rfl⟩ hchain, ?_⟩
    intro hop hmem
    cases hmem with
    | head => exact hcurve
    | tail _ hmem => exact hcurves hop hmem

/-- A coin leads back to the currency it was launched on, for good. However the
    coins are launched, traded, completed and migrated under a depth limit of at
    most 7, and whatever happens afterwards, discovery finds the same coins from
    it to the same root currency, one more than its curve is deep, and passes no
    mayhem coin on the way. -/
theorem launched_coins_lead_to_roots {limit : UInt8} (hlimit : limit ≤ 7)
    (hcurves : ReflTransGen (Curves.Step limit) (fun _ => none) curves) {curve : BondingCurve}
    (hcurve : curves mint = some curve) :
    ∃ root coins, coins.length = curve.depth.toNat ∧
      ∀ later, ReflTransGen (Curves.Step limit) curves later →
        ∀ (_ : RpcAccounts) (snapshot : Snapshot), (∀ request address,
          RpcAccounts.get_account_with_commitment request address = .ok (snapshot address)) →
        snapshot.Shows later →
        snapshot.curve_account root = none ∧
        ∃ hops : List (Pubkey × BondingCurve), hops.map Prod.fst = mint :: coins ∧
          (∀ hop ∈ hops, later hop.1 = some hop.2) ∧
          (∀ hop ∈ hops.tail, hop.2.is_mayhem_mode = false) ∧
          discover_route mint none = .ok ⟨root, mint,
            (hops.map fun hop => curve_venue hop.1 hop.2).reverse⟩ := by
  obtain ⟨sound, -⟩ := Curves.run_sound (Curves.sound_empty limit) hcurves
  obtain ⟨coins, root, hlength, hline, hroot, hfertile⟩ := sound.rooted.line hcurve
  refine ⟨root, coins, hlength, ?_⟩
  intro later hlater _ snapshot hsnapshot hshows
  obtain ⟨-, hgrows⟩ := Curves.run_sound sound hlater
  obtain ⟨hops, hcoins, hchain, hhops⟩ := hshows.chain (hgrows.line hline)
  have hroot' := hshows.no_curve root (hgrows.root hline (List.cons_ne_nil _ _) hroot)
  have hcount : hops.length = curve.depth.toNat + 1 := by
    rw [← List.length_map (f := Prod.fst), hcoins, List.length_cons, hlength]
    rfl
  have hdepth : curve.depth.toNat ≤ 7 :=
    UInt8.le_iff_toNat_le.mp (UInt8.le_trans (sound.depth_le mint curve hcurve) hlimit)
  refine ⟨hroot', hops, hcoins, hhops, ?_, ?_⟩
  · intro hop hmem
    have hcoin : hop.1 ∈ coins := by
      have htail := List.mem_map_of_mem (f := Prod.fst) hmem
      rwa [List.map_tail, hcoins] at htail
    obtain ⟨quote_curve, hquote, hnot⟩ := hfertile hop.1 hcoin
    obtain ⟨quote_curve', hquote', halike⟩ := hgrows.keeps _ _ hquote
    rw [hhops hop (List.mem_of_mem_tail hmem)] at hquote'
    cases hquote'
    exact halike.fertile hnot
  · refine (discover_route_ok_iff hsnapshot).mpr ⟨rfl, hops, ?_, ⟨hchain, ?_, by simp, ?_⟩, rfl⟩
    · exact List.ne_nil_of_length_pos (by omega)
    · change 0 + hops.length ≤ 8
      omega
    · exact .inr (.inr hroot')

end

/-- A cluster with some curves, each under its own address. -/
def curvesSnapshot (curves : Curves) : Snapshot := fun address =>
  (curves ⟨~~~address.bytes⟩).map fun curve =>
    ⟨IdlAccount.DISCRIMINATOR BondingCurve ++ FixedLayout.layout.encode curve,
      constants.pump.PROGRAM_ID⟩

theorem curvesSnapshot_shows (curves : Curves) :
    letI : Solana := coinAddresses
    letI : AccountDeserialize BondingCurve := wrapped BondingCurve
    (curvesSnapshot curves).Shows curves := by
  let _ : Solana := coinAddresses
  let _ : AccountDeserialize BondingCurve := wrapped BondingCurve
  have hread : ∀ mint, (curvesSnapshot curves).curve_account mint =
      (curves mint).map fun curve =>
        ⟨IdlAccount.DISCRIMINATOR BondingCurve ++ FixedLayout.layout.encode curve,
          constants.pump.PROGRAM_ID⟩ := by
    intro mint
    change (curvesSnapshot curves ⟨~~~mint.bytes⟩).filter _ = _
    rw [curvesSnapshot, BitVec.not_not]
    cases curves mint with
    | none => rfl
    | some curve => exact Option.filter_some_pos (decide_eq_true rfl)
  constructor
  · intro mint curve hcurve
    refine ⟨_, by rw [hread, hcurve]; rfl, ?_⟩
    rw [decode_bonding_curve, decode]
    exact Outcome.ok_or_eq_ok_iff.mpr (wrapped_try_deserialize curve)
  · intro mint hcurve
    rw [hread, hcurve]
    rfl

/-- The nesting configuration, with a seed for listed quotes. -/
def pairingGlobal : Global :=
  { nestingGlobal with initial_virtual_quote_reserves := 4_000_000_000 }

/-- A coin quoted in SOL. -/
def firstCurve : BondingCurve :=
  initial_bonding_curve pairingGlobal ⟨7⟩ Pubkey.default 30_000_000_000 false false 0

/-- The coin, and one quoted in it. -/
def pairedCurves : Curves :=
  Function.update (Function.update (fun _ => none) ⟨11⟩ (some firstCurve)) ⟨12⟩
    (some { initial_bonding_curve pairingGlobal ⟨7⟩ ⟨11⟩ 103_836_914_617_998 false false 0 with
      depth := 1 })

theorem pairedCurves_launched : ReflTransGen (Curves.Step 2) (fun _ => none) pairedCurves := by
  have hfirst : Curves.New (fun _ => none) ⟨11⟩ := ⟨by decide, rfl, by rintro m curve ⟨⟩⟩
  have hsecond : Curves.New (Function.update (fun _ => none) ⟨11⟩ (some firstCurve)) ⟨12⟩ := by
    refine ⟨by decide, Function.update_of_ne (by decide) _ _, ?_⟩
    intro m curve hcurve
    by_cases hm : m = ⟨11⟩
    · subst hm
      rw [Function.update_self] at hcurve
      cases hcurve
      decide
    · rw [Function.update_of_ne hm] at hcurve
      cases hcurve
  have hsol : initial_virtual_quote_reserves pairingGlobal none Pubkey.default =
    some 30_000_000_000 := rfl
  have hpair : pump_quote_initial_virtual_quote_reserves pairingGlobal none firstCurve none =
    .ok (103_836_914_617_998, 1) := by decide +kernel
  exact .tail (.single (.create hfirst (by decide) rfl hsol))
    (.create_pump_quote hsecond (Function.update_self ..) (by decide) hpair)

/-- The second coin is two hops from its root. -/
theorem launched_coins_lead_to_roots_paired :
    letI : Solana := coinAddresses
    letI : AccountDeserialize BondingCurve := wrapped BondingCurve
    letI : RpcAccounts := ⟨fun _ address => .ok (curvesSnapshot pairedCurves address)⟩
    ∃ (root : Pubkey) (venues : List RouteVenue), venues.length = 2 ∧
      discover_route ⟨12⟩ none = .ok ⟨root, ⟨12⟩, venues⟩ := by
  let _ : Solana := coinAddresses
  let _ : AccountDeserialize BondingCurve := wrapped BondingCurve
  have hcurve : pairedCurves ⟨12⟩ = some _ := Function.update_self ..
  obtain ⟨root, coins, hlength, hlater⟩ :=
    launched_coins_lead_to_roots (by decide) pairedCurves_launched hcurve
  obtain ⟨-, hops, hcoins, -, -, hroute⟩ := hlater pairedCurves .refl
    ⟨fun _ address => .ok (curvesSnapshot pairedCurves address)⟩ (curvesSnapshot pairedCurves)
    (fun _ _ => rfl) (curvesSnapshot_shows pairedCurves)
  refine ⟨root, _, ?_, hroute⟩
  rw [List.length_reverse, List.length_map, ← List.length_map (f := Prod.fst), hcoins,
    List.length_cons, hlength]
  rfl

end pump_rust_client.async_client
