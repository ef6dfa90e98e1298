import OddBox.Checked
import OddBox.Substitution
import OddBox.Configuration.ReloadAtomicity

/-!
The variables of a configuration in the settings of processes and directory servers: one is
replaced after the other, and in what was put in as well.
-/

namespace OddBox.Configuration

open Substitution

/-! ## Directory servers -/

section Resolving

variable (environment : Environment) (config : OddBoxV3Config)

/-- What stands for `$root_dir` in the directory of a directory server. -/
def OddBoxV3Config.resolveDirRoot (home cfgDir : String) : Except String String :=
  match config.rootDir with
  | none => .ok "$root_dir"
  | some _ => config.resolveRoot environment home cfgDir

def OddBoxV3Config.resolveDirVariables : Except String (String × String × String) := do
  let home ← resolveHome environment
  let cfgDir ← config.getParentPath environment
  let rootDir ← config.resolveDirRoot environment home cfgDir
  pure (home, cfgDir, rootDir)

def OddBoxV3Config.resolveDirServerConfiguration (item : DirServer) :
    Except String DirServer := do
  let values ← config.resolveDirVariables environment
  pure { item with dir := withVars values item.dir }

end Resolving

/-! ## All variables at once -/

def rootVar : List Char := "$root_dir".toList

def cfgVar : List Char := "$cfg_dir".toList

def homeVar : Char := '~'

/-- What stands for each of the variables. -/
def vars (root cfg home : List Char) : List (Rule Char) :=
  [⟨rootVar, root⟩, ⟨cfgVar, cfg⟩, ⟨[homeVar], home⟩]

/-- The variables of the text, and no others, are replaced by their values. -/
def substituted (values : String × String × String) (text : String) : String :=
  String.ofList (substitute
    (vars values.2.2.toList values.2.1.toList values.1.toList) 0 text.toList)

theorem replaceChars_eq (pattern value : List Char) (skip : Nat) (text : List Char) :
    replaceChars pattern value skip text = substitute [⟨pattern, value⟩] skip text := by
  induction text generalizing skip with
  | nil => rfl
  | cons c text ih =>
      cases skip with
      | succ skip => exact ih skip
      | zero =>
          rw [replaceChars, substitute, List.find?_singleton, ih, ih]
          split <;> rfl

theorem vars_nonempty (root cfg home : List Char) :
    ∀ rule ∈ vars root cfg home, rule.pattern ≠ [] := by
  have hroot : rootVar ≠ [] := by decide
  have hcfg : cfgVar ≠ [] := by decide
  rw [vars, List.forall_mem_cons, List.forall_mem_cons, List.forall_mem_singleton]
  exact ⟨hroot, hcfg, List.cons_ne_nil _ _⟩

/-- Where no variable begins. -/
theorem plain_iff {root cfg home : List Char} {c : Char} {rest : List Char} :
    (∀ rule ∈ vars root cfg home, ¬ rule.pattern <+: c :: rest) ↔
      ¬ rootVar <+: c :: rest ∧ ¬ cfgVar <+: c :: rest ∧ c ≠ homeVar := by
  rw [vars, List.forall_mem_cons, List.forall_mem_cons, List.forall_mem_singleton]
  simp [List.cons_prefix_cons, eq_comm]

/-! ## One after the other -/

/-- The value begins with no character of a variable, as the absolute paths do. -/
def Absolute (value : List Char) : Prop :=
  ∃ c rest, value = c :: rest ∧ c ∉ rootVar ∧ c ∉ cfgVar ∧ c ≠ homeVar

/-- The values that are put in for the variables of the text bring no other variable with them:
no value that stands in for one contains or completes one that is replaced later. -/
@[mk_iff]
structure Independent (root cfg text : List Char) : Prop where
  rootHome : homeVar ∈ root → ¬ rootVar <:+: text
  rootCfg : cfgVar <:+: root → ¬ rootVar <:+: text
  ends : ∀ front back, cfgVar = front ++ back → front ≠ [] → front <:+ root →
    ¬ rootVar ++ back <:+: text
  cfgHome : homeVar ∈ cfg → ¬ cfgVar <:+: text

def replaceRoot (root text : List Char) : List Char := substitute [⟨rootVar, root⟩] 0 text

def replaceCfg (cfg text : List Char) : List Char := substitute [⟨cfgVar, cfg⟩] 0 text

def replaceHome (home text : List Char) : List Char := substitute [⟨[homeVar], home⟩] 0 text

/-- `with_vars`. -/
def oneByOne (root cfg home text : List Char) : List Char :=
  replaceHome home (replaceCfg cfg (replaceRoot root text))

theorem withVars_toList (values : String × String × String) (text : String) :
    (withVars values text).toList =
      oneByOne values.2.2.toList values.2.1.toList values.1.toList text.toList := by
  simp only [withVars, replace, String.toList_ofList, replaceChars_eq]
  rfl

theorem replaceCfg_untouched {cfg front text : List Char}
    (h : Untouched [⟨cfgVar, cfg⟩] front text) :
    replaceCfg cfg (front ++ text) = front ++ replaceCfg cfg text :=
  substitute_untouched h

theorem replaceHome_append (home front back : List Char) :
    replaceHome home (front ++ back) = replaceHome home front ++ replaceHome home back := by
  simp only [replaceHome, substitute_letter, List.flatMap_append]

theorem replaceHome_of_not_mem {home text : List Char} (h : homeVar ∉ text) :
    replaceHome home text = text := by
  rw [replaceHome, substitute_letter]
  induction text with
  | nil => rfl
  | cons c text ih =>
      rw [List.mem_cons, not_or] at h
      rw [List.flatMap_cons, if_neg (Ne.symm h.1), ih h.2]
      rfl

theorem replaceHome_cons {home : List Char} {c : Char} (h : c ≠ homeVar) (text : List Char) :
    replaceHome home (c :: text) = c :: replaceHome home text := by
  rw [← List.singleton_append, replaceHome_append, replaceHome_of_not_mem (by simpa using h.symm)]
  rfl

/-- What is put in for the first `~` does not begin as the text goes on there. -/
theorem replaceHome_ne {home text : List Char} (hhome : Absolute home) (h : homeVar ∈ text)
    (front back : List Char) : replaceHome home text ++ front ≠ text ++ back := by
  obtain ⟨first, others, rfl, -, -, hfirst⟩ := hhome
  obtain ⟨before, after, rfl, hbefore⟩ := List.eq_append_cons_of_mem h
  have hvalue : replaceHome (first :: others) (homeVar :: after) =
      first :: (others ++ replaceHome (first :: others) after) := rfl
  rw [replaceHome_append, replaceHome_of_not_mem hbefore, hvalue, List.append_assoc,
    List.append_assoc]
  intro hsame
  exact hfirst (List.cons.inj (List.append_cancel_left hsame)).1

section OneByOne

variable {root cfg home : List Char}

theorem oneByOne_home (rest : List Char) :
    oneByOne root cfg home (homeVar :: rest) = home ++ oneByOne root cfg home rest := rfl

theorem oneByOne_cfg (rest : List Char) :
    oneByOne root cfg home (cfgVar ++ rest) = replaceHome home cfg ++ oneByOne root cfg home rest :=
  replaceHome_append home cfg _

theorem replaceRoot_root (rest : List Char) :
    replaceRoot root (rootVar ++ rest) = root ++ replaceRoot root rest := rfl

theorem substitute_home (rest : List Char) :
    substitute (vars root cfg home) 0 (homeVar :: rest) =
      home ++ substitute (vars root cfg home) 0 rest := rfl

theorem substitute_cfg (rest : List Char) :
    substitute (vars root cfg home) 0 (cfgVar ++ rest) =
      cfg ++ substitute (vars root cfg home) 0 rest := rfl

theorem substitute_root (rest : List Char) :
    substitute (vars root cfg home) 0 (rootVar ++ rest) =
      root ++ substitute (vars root cfg home) 0 rest := rfl

/-! ## Where the variables stand -/

theorem infix_cons {pattern rest : List Char} {c : Char} (h : ¬ pattern <+: c :: rest) :
    pattern <:+: c :: rest ↔ pattern <:+: rest := by
  rw [List.infix_cons_iff, or_iff_right h]

/-- A pattern does not begin where its first character does not stand. -/
theorem infix_append {mark : Char} {front : List Char} (h : mark ∉ front)
    (pattern rest : List Char) :
    mark :: pattern <:+: front ++ rest ↔ mark :: pattern <:+: rest := by
  induction front with
  | nil => rfl
  | cons c front ih =>
      rw [List.mem_cons, not_or] at h
      have hprefix : ¬ mark :: pattern <+: c :: (front ++ rest) := fun hprefix =>
        h.1 (List.cons_prefix_cons.mp hprefix).1
      rw [List.cons_append, infix_cons hprefix, ih h.2]

def rootName : List Char := "root_dir".toList

def cfgName : List Char := "cfg_dir".toList

theorem rootVar_eq : rootVar = '$' :: rootName := rfl

theorem cfgVar_eq : cfgVar = '$' :: cfgName := rfl

theorem root_not_prefix_cfg (back rest : List Char) :
    ¬ rootVar ++ back <+: cfgVar ++ rest := by
  intro h
  have hsecond := (List.cons_prefix_cons.mp (List.cons_prefix_cons.mp h).2).1
  exact absurd hsecond (by decide)

theorem cfg_not_prefix_root (rest : List Char) : ¬ cfgVar <+: rootVar ++ rest := by
  intro h
  have hsecond := (List.cons_prefix_cons.mp (List.cons_prefix_cons.mp h).2).1
  exact absurd hsecond (by decide)

theorem root_infix_cfg (back rest : List Char) :
    rootVar ++ back <:+: cfgVar ++ rest ↔ rootVar ++ back <:+: rest := by
  have hname : '$' ∉ cfgName := by decide
  have hprefix := root_not_prefix_cfg back rest
  rw [cfgVar_eq, List.cons_append] at hprefix ⊢
  rw [infix_cons hprefix, rootVar_eq, List.cons_append, infix_append hname]

theorem root_infix_root (back rest : List Char) :
    rootVar ++ back <:+: rootVar ++ rest ↔ back <+: rest ∨ rootVar ++ back <:+: rest := by
  have hname : '$' ∉ rootName := by decide
  rw [← List.prefix_append_right_inj rootVar, rootVar_eq, List.cons_append, List.cons_append,
    List.infix_cons_iff, infix_append hname]

theorem cfg_infix_root (rest : List Char) : cfgVar <:+: rootVar ++ rest ↔ cfgVar <:+: rest := by
  have hname : '$' ∉ rootName := by decide
  have hprefix := cfg_not_prefix_root rest
  rw [rootVar_eq, List.cons_append] at hprefix ⊢
  rw [infix_cons hprefix, cfgVar_eq, infix_append hname]

theorem independent_cons {c : Char} {rest : List Char} (hroot : ¬ rootVar <+: c :: rest)
    (hcfg : ¬ cfgVar <+: c :: rest) :
    Independent root cfg (c :: rest) ↔ Independent root cfg rest := by
  have hback : ∀ back, rootVar ++ back <:+: c :: rest ↔ rootVar ++ back <:+: rest := fun back =>
    infix_cons fun h => hroot ((List.prefix_append _ _).trans h)
  simp only [independent_iff, infix_cons hroot, infix_cons hcfg, hback]

theorem independent_nil : Independent root cfg [] := by
  have hnil : ∀ back, ¬ rootVar ++ back <:+: [] := by
    intro back h
    exact absurd (List.append_eq_nil_iff.mp (List.infix_nil.mp h)).1 (by decide)
  have hroot : ¬ rootVar <:+: [] := by simpa using hnil []
  exact ⟨fun _ => hroot, fun _ => hroot, fun _ back _ _ _ => hnil back, fun _ => by decide⟩

theorem independent_cfg (rest : List Char) :
    Independent root cfg (cfgVar ++ rest) ↔ homeVar ∉ cfg ∧ Independent root cfg rest := by
  have hroot : rootVar <:+: cfgVar ++ rest ↔ rootVar <:+: rest := by
    simpa using root_infix_cfg [] rest
  have hcfg : cfgVar <:+: cfgVar ++ rest := (List.prefix_append _ _).isInfix
  simp only [independent_iff, hroot, root_infix_cfg, hcfg, not_true]
  tauto

theorem independent_root (rest : List Char) :
    Independent root cfg (rootVar ++ rest) ↔
      (homeVar ∉ root ∧ ¬ cfgVar <:+: root ∧
        ∀ front back, cfgVar = front ++ back → front ≠ [] → front <:+ root → ¬ back <+: rest) ∧
      Independent root cfg rest := by
  have hroot : rootVar <:+: rootVar ++ rest := (List.prefix_append _ _).isInfix
  constructor
  · rintro ⟨hhome, hcfg, hends, hcfgHome⟩
    refine ⟨⟨fun h => hhome h hroot, fun h => hcfg h hroot, ?_⟩, ⟨?_, ?_, ?_, ?_⟩⟩
    · intro front back hsplit hfront hsuffix hback
      exact hends front back hsplit hfront hsuffix ((root_infix_root back rest).mpr (.inl hback))
    · exact fun h => absurd hroot (hhome h)
    · exact fun h => absurd hroot (hcfg h)
    · intro front back hsplit hfront hsuffix hback
      exact hends front back hsplit hfront hsuffix ((root_infix_root back rest).mpr (.inr hback))
    · exact fun h => (cfg_infix_root rest).not.mp (hcfgHome h)
  · rintro ⟨⟨hhome, hcfg, hends⟩, hrest⟩
    refine ⟨fun h => absurd h hhome, fun h => absurd h hcfg, ?_, ?_⟩
    · intro front back hsplit hfront hsuffix hback
      rcases (root_infix_root back rest).mp hback with hprefix | hinside
      · exact hends front back hsplit hfront hsuffix hprefix
      · exact hrest.ends front back hsplit hfront hsuffix hinside
    · exact fun h => (cfg_infix_root rest).not.mpr (hrest.cfgHome h)

/-! ## Step by step -/

/-- The rest of a variable stands behind the values where it stood before. -/
theorem prefix_replaceRoot (hroot : Absolute root) {back : List Char} (hback : back <:+: cfgName)
    (rest : List Char) : back <+: replaceRoot root rest ↔ back <+: rest := by
  obtain ⟨first, others, rfl, -, hfirst, -⟩ := hroot
  induction back generalizing rest with
  | nil => exact iff_of_true List.nil_prefix List.nil_prefix
  | cons c back ih =>
      have hc : c ∈ cfgName := hback.subset List.mem_cons_self
      have htail : back <:+: cfgName := (List.suffix_cons c back).isInfix.trans hback
      by_cases hprefix : rootVar <+: rest
      · obtain ⟨later, rfl⟩ := hprefix
        rw [replaceRoot_root, List.cons_append, rootVar_eq, List.cons_append,
          List.cons_prefix_cons, List.cons_prefix_cons]
        have hmark : '$' ∉ cfgName := by decide
        refine iff_of_false (fun h => ?_) fun h => ?_
        · exact hfirst (h.1 ▸ List.mem_cons_of_mem _ hc)
        · exact hmark (h.1 ▸ hc)
      · cases rest with
        | nil => rfl
        | cons d rest =>
            have hstep : replaceRoot (first :: others) (d :: rest) =
                d :: replaceRoot (first :: others) rest :=
              substitute_cons (by simpa using hprefix)
            rw [hstep, List.cons_prefix_cons, List.cons_prefix_cons, ih htail]

theorem oneByOne_plain (hroot : Absolute root) {c : Char} {rest : List Char}
    (h : ¬ rootVar <+: c :: rest ∧ ¬ cfgVar <+: c :: rest ∧ c ≠ homeVar) :
    oneByOne root cfg home (c :: rest) = c :: oneByOne root cfg home rest := by
  have hfirst : replaceRoot root (c :: rest) = c :: replaceRoot root rest :=
    substitute_cons (by simpa using h.1)
  have hcfg : ¬ cfgVar <+: c :: replaceRoot root rest := by
    rw [cfgVar_eq, List.cons_prefix_cons, prefix_replaceRoot hroot List.infix_rfl,
      ← List.cons_prefix_cons, ← cfgVar_eq]
    exact h.2.1
  have hsecond : replaceCfg cfg (c :: replaceRoot root rest) =
      c :: replaceCfg cfg (replaceRoot root rest) := substitute_cons (by simpa using hcfg)
  rw [oneByOne, hfirst, hsecond, replaceHome_cons h.2.2]
  rfl

/-- The variables that are replaced after `$root_dir`. -/
def laterVars (cfg home : List Char) : List (Rule Char) := [⟨cfgVar, cfg⟩, ⟨[homeVar], home⟩]

theorem untouched_laterVars_iff (hroot : Absolute root) (rest : List Char) :
    Untouched (laterVars cfg home) root (replaceRoot root rest) ↔
      homeVar ∉ root ∧ ¬ cfgVar <:+: root ∧
        ∀ front back, cfgVar = front ++ back → front ≠ [] → front <:+ root → ¬ back <+: rest := by
  have hname : ∀ front back, cfgVar = front ++ back → front ≠ [] → back <:+: cfgName := by
    intro front back hsplit hfront
    obtain ⟨c, front, rfl⟩ := List.exists_cons_of_ne_nil hfront
    rw [cfgVar_eq, List.cons_append] at hsplit
    rw [(List.cons.inj hsplit).2]
    exact (List.suffix_append front back).isInfix
  constructor
  · intro h
    refine ⟨fun hmem => ?_, ?_, ?_⟩
    · obtain ⟨before, after, hsplit⟩ := List.append_of_mem hmem
      refine h before (homeVar :: after) hsplit (List.cons_ne_nil _ _) ⟨[homeVar], home⟩
        (List.mem_cons_of_mem _ (List.mem_singleton_self _)) ?_
      exact List.cons_prefix_cons.mpr ⟨rfl, List.nil_prefix⟩
    · rintro ⟨before, after, hsplit⟩
      have hne : cfgVar ≠ [] := by decide
      refine h before (cfgVar ++ after) (by rw [← hsplit, List.append_assoc])
        (List.append_ne_nil_of_left_ne_nil hne _) ⟨cfgVar, cfg⟩ List.mem_cons_self ?_
      rw [List.append_assoc]
      exact List.prefix_append _ _
    · rintro front back hsplit hfront ⟨before, hsuffix⟩ hback
      refine h before front hsuffix.symm hfront ⟨cfgVar, cfg⟩ List.mem_cons_self ?_
      rw [hsplit, List.prefix_append_right_inj]
      exact (prefix_replaceRoot hroot (hname front back hsplit hfront) rest).mpr hback
  · rintro ⟨hhome, hcfg, hends⟩ before start hsplit hstart rule hmem hprefix
    rw [laterVars, List.mem_cons, List.mem_singleton] at hmem
    have hsuffix : start <:+ root := ⟨before, hsplit.symm⟩
    rcases hmem with rfl | rfl
    · rcases List.prefix_or_prefix_of_prefix hprefix (List.prefix_append start _) with hin | hout
      · exact hcfg (hin.isInfix.trans hsuffix.isInfix)
      · obtain ⟨back, hback⟩ := hout
        refine hends start back hback.symm hstart hsuffix ?_
        rw [← prefix_replaceRoot hroot (hname start back hback.symm hstart)]
        exact (List.prefix_append_right_inj start).mp (hback ▸ hprefix)
    · obtain ⟨c, start, rfl⟩ := List.exists_cons_of_ne_nil hstart
      obtain rfl := (List.cons_prefix_cons.mp hprefix).1
      exact hhome (hsuffix.subset List.mem_cons_self)

/-- The value of `$root_dir` stays if no other variable begins in it, -/
theorem oneByOne_root {rest : List Char}
    (h : Untouched (laterVars cfg home) root (replaceRoot root rest)) (hhome : homeVar ∉ root) :
    oneByOne root cfg home (rootVar ++ rest) = root ++ oneByOne root cfg home rest := by
  have hcfg : Untouched [⟨cfgVar, cfg⟩] root (replaceRoot root rest) := by
    intro before start hsplit hstart rule hmem
    obtain rfl := List.mem_singleton.mp hmem
    exact h before start hsplit hstart _ List.mem_cons_self
  rw [oneByOne, replaceRoot_root, replaceCfg_untouched hcfg, replaceHome_append,
    replaceHome_of_not_mem hhome]
  rfl

/-- and else it does not. -/
theorem oneByOne_root_ne (hcfg : Absolute cfg) (hhome : Absolute home) {rest : List Char}
    (h : ¬ Untouched (laterVars cfg home) root (replaceRoot root rest)) (text : List Char) :
    oneByOne root cfg home (rootVar ++ rest) ≠ root ++ text := by
  obtain ⟨before, start, rfl, hstart, ⟨rule, hmem, hbegins⟩, hbefore⟩ := exists_first h
  have hbeforeCfg : Untouched [⟨cfgVar, cfg⟩] before
      (start ++ replaceRoot (before ++ start) rest) := by
    intro front back hsplit hback other hother
    obtain rfl := List.mem_singleton.mp hother
    exact hbefore front back hsplit hback _ List.mem_cons_self
  have hbeforeHome : homeVar ∉ before := by
    intro hin
    obtain ⟨front, back, hsplit⟩ := List.append_of_mem hin
    refine hbefore front (homeVar :: back) hsplit (List.cons_ne_nil _ _) ⟨[homeVar], home⟩
      (List.mem_cons_of_mem _ (List.mem_singleton_self _)) ?_
    exact List.cons_prefix_cons.mpr ⟨rfl, List.nil_prefix⟩
  obtain ⟨c, start, rfl⟩ := List.exists_cons_of_ne_nil hstart
  rw [oneByOne, replaceRoot_root, List.append_assoc, replaceCfg_untouched hbeforeCfg,
    replaceHome_append, replaceHome_of_not_mem hbeforeHome, List.append_assoc]
  intro hsame
  have hrest := List.append_cancel_left hsame
  rw [laterVars, List.mem_cons, List.mem_singleton] at hmem
  rcases hmem with rfl | rfl
  -- a path stands where the text has a dollar sign
  · obtain ⟨first, others, rfl, -, hfirst, hother⟩ := hcfg
    obtain ⟨later, hlater⟩ := hbegins
    have hdollar : c = '$' := (List.cons.inj hlater).1.symm
    have hvalue : replaceCfg (first :: others) (cfgVar ++ later) =
        first :: (others ++ replaceCfg (first :: others) later) := rfl
    rw [← hlater, hvalue, replaceHome_cons hother] at hrest
    exact hfirst ((List.cons.inj hrest).1.trans hdollar ▸ List.mem_cons_self)
  -- or where it has a tilde
  · obtain ⟨first, others, rfl, -, -, hother⟩ := hhome
    obtain rfl := (List.cons_prefix_cons.mp hbegins).1
    exact hother (List.cons.inj hrest).1

/-- The variables are replaced as if at once exactly if no value that is put in disturbs it. -/
theorem oneByOne_eq_iff (hroot : Absolute root) (hcfg : Absolute cfg) (hhome : Absolute home)
    (text : List Char) :
    oneByOne root cfg home text = substitute (vars root cfg home) 0 text ↔
      Independent root cfg text := by
  induction text using induction_on (vars_nonempty root cfg home) with
  | nil => exact iff_of_true rfl independent_nil
  | plain c rest hplain ih =>
      rw [substitute_cons hplain]
      rw [plain_iff] at hplain
      rw [oneByOne_plain hroot hplain, List.cons_inj_right, ih,
        independent_cons hplain.1 hplain.2.1]
  | pattern rule hmem rest ih =>
      rw [vars, List.mem_cons, List.mem_cons, List.mem_singleton] at hmem
      rcases hmem with rfl | rfl | rfl
      · rw [substitute_root, independent_root]
        by_cases hkept : Untouched (laterVars cfg home) root (replaceRoot root rest)
        · have hvalue := (untouched_laterVars_iff hroot rest).mp hkept
          rw [oneByOne_root hkept hvalue.1, List.append_cancel_left_eq, ih, and_iff_right hvalue]
        · refine iff_of_false (oneByOne_root_ne hcfg hhome hkept _) fun h => hkept ?_
          exact (untouched_laterVars_iff hroot rest).mpr h.1
      · rw [oneByOne_cfg, substitute_cfg, independent_cfg]
        by_cases hmem : homeVar ∈ cfg
        · exact iff_of_false (replaceHome_ne hhome hmem _ _) fun h => h.1 hmem
        · rw [replaceHome_of_not_mem hmem, List.append_cancel_left_eq, ih, and_iff_right hmem]
      · have hrootVar : ¬ rootVar <+: homeVar :: rest := fun h =>
          absurd (List.cons_prefix_cons.mp h).1 (by decide)
        have hcfgVar : ¬ cfgVar <+: homeVar :: rest := fun h =>
          absurd (List.cons_prefix_cons.mp h).1 (by decide)
        rw [List.singleton_append, oneByOne_home, substitute_home, List.append_cancel_left_eq, ih,
          independent_cons hrootVar hcfgVar]

theorem oneByOne_literal (cfg home text : List Char) :
    oneByOne rootVar cfg home text = replaceHome home (replaceCfg cfg text) := by
  have hself : replaceRoot rootVar text = text := substitute_self rootVar text (by decide)
  rw [oneByOne, hself]

/-- Where `$root_dir` stays, the text has no value for it. -/
theorem not_infix_of_literal (hroot : Absolute root) (hhome : Absolute home) {text : List Char}
    (h : oneByOne rootVar cfg home text = substitute (vars root cfg home) 0 text) :
    ¬ rootVar <:+: text := by
  rw [oneByOne_literal] at h
  induction text using induction_on (vars_nonempty root cfg home) with
  | nil => decide
  | plain c rest hplain ih =>
      rw [substitute_cons hplain] at h
      rw [plain_iff] at hplain
      have hstep : replaceCfg cfg (c :: rest) = c :: replaceCfg cfg rest :=
        substitute_cons (by simpa using hplain.2.1)
      rw [hstep, replaceHome_cons hplain.2.2, List.cons_inj_right] at h
      rw [infix_cons hplain.1]
      exact ih h
  | pattern rule hmem rest ih =>
      rw [vars, List.mem_cons, List.mem_cons, List.mem_singleton] at hmem
      rcases hmem with rfl | rfl | rfl
      · obtain ⟨first, others, rfl, hfirst, -⟩ := hroot
        have hdollar : first = '$' := (List.cons.inj h).1.symm
        exact absurd (hdollar ▸ List.mem_cons_self) hfirst
      · have hvalue : replaceCfg cfg (cfgVar ++ rest) = cfg ++ replaceCfg cfg rest := rfl
        rw [substitute_cfg, hvalue, replaceHome_append] at h
        by_cases hmem : homeVar ∈ cfg
        · exact absurd h (replaceHome_ne hhome hmem _ _)
        · rw [replaceHome_of_not_mem hmem, List.append_cancel_left_eq] at h
          have hinside : rootVar <:+: cfgVar ++ rest ↔ rootVar <:+: rest := by
            simpa using root_infix_cfg [] rest
          rw [hinside]
          exact ih h
      · have hrootVar : ¬ rootVar <+: homeVar :: rest := fun h =>
          absurd (List.cons_prefix_cons.mp h).1 (by decide)
        have hvalue : replaceHome home (replaceCfg cfg (homeVar :: rest)) =
            home ++ replaceHome home (replaceCfg cfg rest) := rfl
        rw [List.singleton_append, substitute_home, hvalue, List.append_cancel_left_eq] at h
        rw [List.singleton_append, infix_cons hrootVar]
        exact ih h

theorem literal_iff (hroot : Absolute root) (hhome : Absolute home) {text : List Char}
    (h : oneByOne root cfg home text = substitute (vars root cfg home) 0 text) :
    oneByOne rootVar cfg home text = substitute (vars root cfg home) 0 text ↔
      ¬ rootVar <:+: text := by
  refine ⟨not_infix_of_literal hroot hhome, fun hinside => ?_⟩
  have hsame : replaceRoot root text = text := substitute_of_not_infix (by simpa using hinside)
  rw [← h, oneByOne_literal, oneByOne, hsame]

end OneByOne

/-! ## Resolving -/

section Resolving

variable (environment : Environment) (config : OddBoxV3Config)

/-- The system gives absolute paths, and the configuration has one. -/
structure AbsolutePaths : Prop where
  homeDir : ∀ path text, environment.homeDir = some path → path.toStr = some text →
    Absolute text.toList
  parent : ∀ path directory, config.path = some path → environment.parent path = some directory →
    directory.toStr.getD "" ≠ "" → Absolute (directory.toStr.getD "").toList
  currentDir : ∀ path, environment.currentDir = .ok path → Absolute path.display.toList
  canonicalize : ∀ text path, environment.canonicalize text = .ok path →
    Absolute (replace path.display "\\\\?\\" "").toList

/-- What the text is documented to stand for: each variable in it for its value, and `$root_dir`
for the current directory if no root is set. -/
def OddBoxV3Config.documented (text : String) : Except String String :=
  (config.resolveVariables environment).map (substituted · text)

/-- Wherever the text is set, it is resolved to what it is documented to stand for. -/
structure Resolves (text : String) : Prop where
  bin : ∀ proc, proc.bin = text →
    (config.resolveProcessConfiguration environment proc).map (·.bin) =
      config.documented environment text
  dir : ∀ proc, proc.dir = some text →
    (config.resolveProcessConfiguration environment proc).map (·.dir) =
      (config.documented environment text).map some
  args : ∀ proc front back, proc.args = some (front ++ text :: back) →
    (config.resolveProcessConfiguration environment proc).map
        (fun resolved => resolved.args.bind fun args => args[front.length]?) =
      (config.documented environment text).map some
  dirServer : ∀ item, item.dir = text →
    (config.resolveDirServerConfiguration environment item).map (·.dir) =
      config.documented environment text

/-- Without a root `$root_dir` does not stand in the text, and no value disturbs another. -/
@[mk_iff]
structure Settled (text : String) : Prop where
  noRoot : config.rootDir = none → ∀ home cfgDir, resolveHome environment = .ok home →
    config.getParentPath environment = .ok cfgDir →
      (∃ path, environment.currentDir = .ok path) ∧ ¬ rootVar <:+: text.toList
  independent : ∀ home cfgDir rootDir,
    config.resolveVariables environment = .ok (home, cfgDir, rootDir) →
      Independent rootDir.toList cfgDir.toList text.toList

variable {environment config}

theorem resolveDirServer_eq (item : DirServer) :
    config.resolveDirServerConfiguration environment item =
      (config.resolveDirVariables environment).map fun values =>
        { item with dir := withVars values item.dir } := by
  rw [OddBoxV3Config.resolveDirServerConfiguration]
  cases config.resolveDirVariables environment <;> rfl

/-- A process is resolved as its variables are, whatever is set to the text in it. -/
theorem resolves_iff (text : String) :
    Resolves environment config text ↔
      (config.resolveVariables environment).map (withVars · text) =
          config.documented environment text ∧
        (config.resolveDirVariables environment).map (withVars · text) =
          config.documented environment text := by
  rw [OddBoxV3Config.documented]
  constructor
  · intro h
    have hbin := h.bin { plainSite "" none with bin := text } rfl
    have hdir := h.dirServer ⟨text, "", none, none, none, none, none, none⟩ rfl
    rw [resolveProcess_eq] at hbin
    rw [resolveDirServer_eq] at hdir
    rw [OddBoxV3Config.documented] at hbin hdir
    constructor
    · rw [← hbin]
      cases config.resolveVariables environment <;> rfl
    · rw [← hdir]
      cases config.resolveDirVariables environment <;> rfl
  · rintro ⟨hprocess, hdir⟩
    refine ⟨?_, ?_, ?_, ?_⟩
    · rintro proc rfl
      rw [OddBoxV3Config.documented, ← hprocess, resolveProcess_eq]
      cases config.resolveVariables environment <;> rfl
    · intro proc hset
      rw [OddBoxV3Config.documented, ← hprocess, resolveProcess_eq]
      cases config.resolveVariables environment with
      | error e => rfl
      | ok values =>
          change Except.ok (proc.dir.map (withVars values)) = _
          rw [hset]
          rfl
    · intro proc front back hset
      rw [OddBoxV3Config.documented, ← hprocess, resolveProcess_eq]
      cases config.resolveVariables environment with
      | error e => rfl
      | ok values =>
          change Except.ok ((proc.args.map fun args => args.map (withVars values)).bind
            fun args => args[front.length]?) = _
          rw [hset]
          simp [Except.map]
    · rintro item rfl
      rw [OddBoxV3Config.documented, ← hdir, resolveDirServer_eq]
      cases config.resolveDirVariables environment <;> rfl

theorem absolute_home (h : AbsolutePaths environment config) {home : String}
    (hhome : resolveHome environment = .ok home) : Absolute home.toList := by
  rw [resolveHome] at hhome
  split at hhome
  · cases hhome
  · next path hpath =>
    split at hhome
    · cases hhome
    · next text htext =>
      cases hhome
      exact h.homeDir path _ hpath htext

theorem absolute_cfgDir (h : AbsolutePaths environment config) {cfgDir : String}
    (hcfg : config.getParentPath environment = .ok cfgDir) : Absolute cfgDir.toList := by
  rw [OddBoxV3Config.getParentPath] at hcfg
  split at hcfg
  · cases hcfg
  · next path hpath =>
    split at hcfg
    · cases hcfg
    · next directory hdirectory =>
      split at hcfg
      · cases hcfg
        exact ⟨'.', [], rfl, by decide, by decide, by decide⟩
      · next hname =>
        cases hcfg
        exact h.parent path directory hpath hdirectory hname

theorem absolute_root (h : AbsolutePaths environment config) {home cfgDir rootDir : String}
    (hroot : config.resolveRoot environment home cfgDir = .ok rootDir) :
    Absolute rootDir.toList := by
  rw [OddBoxV3Config.resolveRoot] at hroot
  split at hroot
  · split at hroot
    · cases hroot
    · next path hpath =>
      cases hroot
      exact h.currentDir path hpath
  · split at hroot
    · cases hroot
    · simp only at hroot
      split at hroot
      · cases hroot
      · next path hpath =>
        cases hroot
        exact h.canonicalize _ path hpath

theorem absolute_values (h : AbsolutePaths environment config) {home cfgDir rootDir : String}
    (hvalues : config.resolveVariables environment = .ok (home, cfgDir, rootDir)) :
    Absolute rootDir.toList ∧ Absolute cfgDir.toList ∧ Absolute home.toList := by
  rw [OddBoxV3Config.resolveVariables] at hvalues
  obtain ⟨home, hhome, hvalues⟩ := Checked.bind_eq_ok.mp hvalues
  obtain ⟨cfgDir, hcfg, hvalues⟩ := Checked.bind_eq_ok.mp hvalues
  obtain ⟨rootDir, hroot, hvalues⟩ := Checked.bind_eq_ok.mp hvalues
  cases hvalues
  exact ⟨absolute_root h hroot, absolute_cfgDir h hcfg, absolute_home h hhome⟩

theorem substituted_toList (values : String × String × String) (text : String) :
    (substituted values text).toList =
      substitute (vars values.2.2.toList values.2.1.toList values.1.toList) 0 text.toList :=
  String.toList_ofList

theorem withVars_eq_iff {home cfgDir rootDir text : String}
    (habsolute : Absolute rootDir.toList ∧ Absolute cfgDir.toList ∧ Absolute home.toList) :
    withVars (home, cfgDir, rootDir) text = substituted (home, cfgDir, rootDir) text ↔
      Independent rootDir.toList cfgDir.toList text.toList := by
  rw [← String.toList_inj, withVars_toList, substituted_toList]
  exact oneByOne_eq_iff habsolute.1 habsolute.2.1 habsolute.2.2 text.toList

/-- `$root_dir` stays in the directory of a directory server exactly if it is not in the text. -/
theorem withVars_literal_iff {home cfgDir rootDir text : String}
    (habsolute : Absolute rootDir.toList ∧ Absolute cfgDir.toList ∧ Absolute home.toList)
    (h : withVars (home, cfgDir, rootDir) text = substituted (home, cfgDir, rootDir) text) :
    withVars (home, cfgDir, "$root_dir") text = substituted (home, cfgDir, rootDir) text ↔
      ¬ rootVar <:+: text.toList := by
  rw [← String.toList_inj, withVars_toList, substituted_toList] at h ⊢
  exact literal_iff habsolute.1 habsolute.2.2 h

/-- The home directory and that of the configuration are known, or nothing is resolved. -/
theorem known_or_failed :
    (∃ home cfgDir, resolveHome environment = .ok home ∧
      config.getParentPath environment = .ok cfgDir) ∨
    (∃ e, config.resolveVariables environment = .error e ∧
      config.resolveDirVariables environment = .error e) := by
  rw [OddBoxV3Config.resolveVariables, OddBoxV3Config.resolveDirVariables]
  cases hhome : resolveHome environment with
  | error e => exact .inr ⟨e, rfl, rfl⟩
  | ok home =>
      cases hcfg : config.getParentPath environment with
      | error e => exact .inr ⟨e, rfl, rfl⟩
      | ok cfgDir => exact .inl ⟨home, cfgDir, rfl, rfl⟩

section Known

variable {home cfgDir : String} (hhome : resolveHome environment = .ok home)
  (hcfg : config.getParentPath environment = .ok cfgDir)
include hhome hcfg

theorem resolveVariables_known : config.resolveVariables environment =
    (config.resolveRoot environment home cfgDir).map fun rootDir => (home, cfgDir, rootDir) := by
  rw [OddBoxV3Config.resolveVariables, hhome, hcfg]
  simp only [bind, Except.bind]
  cases config.resolveRoot environment home cfgDir <;> rfl

theorem resolveDirVariables_known : config.resolveDirVariables environment =
    (config.resolveDirRoot environment home cfgDir).map fun rootDir => (home, cfgDir, rootDir) := by
  rw [OddBoxV3Config.resolveDirVariables, hhome, hcfg]
  simp only [bind, Except.bind]
  cases config.resolveDirRoot environment home cfgDir <;> rfl

end Known

/-- With a root a directory server has the values of a process, -/
theorem resolveDirVariables_root {rootDir : String} (hroot : config.rootDir = some rootDir) :
    config.resolveDirVariables environment = config.resolveVariables environment := by
  rw [OddBoxV3Config.resolveDirVariables, OddBoxV3Config.resolveVariables]
  have hsame : ∀ home cfgDir, config.resolveDirRoot environment home cfgDir =
      config.resolveRoot environment home cfgDir := by
    intro home cfgDir
    rw [OddBoxV3Config.resolveDirRoot, hroot]
  simp only [hsame]

theorem resolves_of_root (h : AbsolutePaths environment config) {text rootDir : String}
    (hroot : config.rootDir = some rootDir) :
    Resolves environment config text ↔
      ∀ home cfgDir rootDir, config.resolveVariables environment = .ok (home, cfgDir, rootDir) →
        Independent rootDir.toList cfgDir.toList text.toList := by
  rw [resolves_iff, resolveDirVariables_root hroot, and_self, OddBoxV3Config.documented]
  cases hvalues : config.resolveVariables environment with
  | error e =>
      simp only [Except.map]
      exact iff_of_true trivial fun _ _ _ h => by cases h
  | ok values =>
      obtain ⟨home, cfgDir, rootDir⟩ := values
      simp only [Except.map, Except.ok.injEq, Prod.mk.injEq]
      rw [withVars_eq_iff (absolute_values h hvalues)]
      refine ⟨?_, fun hindependent => hindependent _ _ _ ⟨rfl, rfl, rfl⟩⟩
      rintro hindependent _ _ _ ⟨rfl, rfl, rfl⟩
      exact hindependent

/-- and without one the root of a process is the current directory. -/
theorem resolves_of_no_root (h : AbsolutePaths environment config) {text home cfgDir : String}
    (hroot : config.rootDir = none) (hhome : resolveHome environment = .ok home)
    (hcfg : config.getParentPath environment = .ok cfgDir) :
    Resolves environment config text ↔
      ∃ path, environment.currentDir = .ok path ∧ ¬ rootVar <:+: text.toList ∧
        Independent path.display.toList cfgDir.toList text.toList := by
  have hdir : config.resolveDirVariables environment = .ok (home, cfgDir, "$root_dir") := by
    rw [resolveDirVariables_known hhome hcfg, OddBoxV3Config.resolveDirRoot, hroot]
    rfl
  have hvalues := resolveVariables_known hhome hcfg
  rw [OddBoxV3Config.resolveRoot, hroot] at hvalues
  rw [resolves_iff, OddBoxV3Config.documented, hdir]
  cases hcurrent : environment.currentDir with
  | error e =>
      rw [hcurrent] at hvalues
      rw [hvalues]
      simp only [Except.map, reduceCtorEq, and_false, false_and, exists_false]
  | ok path =>
      rw [hcurrent] at hvalues
      have habsolute := absolute_values h hvalues
      rw [hvalues]
      simp only [Except.map, Except.ok.injEq, exists_eq_left']
      rw [← withVars_eq_iff habsolute, and_comm (a := ¬ _)]
      exact and_congr_right fun hsame => withVars_literal_iff habsolute hsame

/-- A text is resolved as documented exactly if it does without the default of the root, and no
value that is put into it disturbs another. -/
theorem resolves_iff_settled (h : AbsolutePaths environment config) (text : String) :
    Resolves environment config text ↔ Settled environment config text := by
  rw [settled_iff]
  cases hroot : config.rootDir with
  | some rootDir =>
      rw [resolves_of_root h hroot]
      exact (and_iff_right fun hnone => by cases hnone).symm
  | none =>
      rcases @known_or_failed environment config with
        ⟨home, cfgDir, hhome, hcfg⟩ | ⟨e, hvalues, hdir⟩
      · have hvalues := resolveVariables_known hhome hcfg
        rw [OddBoxV3Config.resolveRoot, hroot] at hvalues
        rw [resolves_of_no_root h hroot hhome hcfg, hvalues, hhome, hcfg]
        constructor
        · rintro ⟨path, hcurrent, hinside, hindependent⟩
          refine ⟨fun _ _ _ _ _ => ⟨⟨path, hcurrent⟩, hinside⟩, fun _ _ _ hok => ?_⟩
          rw [hcurrent] at hok
          cases hok
          exact hindependent
        · rintro ⟨hnoRoot, hindependent⟩
          obtain ⟨⟨path, hcurrent⟩, hinside⟩ := hnoRoot rfl home cfgDir rfl rfl
          refine ⟨path, hcurrent, hinside, hindependent home cfgDir path.display ?_⟩
          rw [hcurrent]
          rfl
      · have hunknown : ∀ home cfgDir, resolveHome environment = .ok home →
            config.getParentPath environment ≠ .ok cfgDir := by
          intro home cfgDir hhome hcfg
          rw [resolveDirVariables_known hhome hcfg, OddBoxV3Config.resolveDirRoot, hroot] at hdir
          cases hdir
        rw [resolves_iff, OddBoxV3Config.documented, hvalues, hdir]
        simp only [Except.map]
        refine iff_of_true ⟨trivial, trivial⟩
          ⟨fun _ home cfgDir hhome hcfg => ?_, fun _ _ _ hok => ?_⟩
        · exact absurd hcfg (hunknown home cfgDir hhome)
        · cases hok

end Resolving

/-! ## A configuration in a directory -/

/-- A system on which the configuration stands in the directory, and with one other directory. -/
def system (directory : String) : Environment :=
  { oneFile "" with
    canonicalize := fun text =>
      if text = "/srv/www" then .ok ⟨some "/srv/www", "/srv/www"⟩ else .error "not found"
    parent := fun _ => some ⟨some directory, directory⟩
    homeDir := some ⟨some "/home/user", "/home/user"⟩
    currentDir := .ok ⟨some "/work", "/work"⟩ }

def placed (rootDir : Option String) : OddBoxV3Config :=
  { twoSites with path := some "/etc/odd-box.toml", rootDir := rootDir }

theorem absolute_slash {value : List Char} (h : value.head? = some '/') : Absolute value := by
  obtain ⟨rest, rfl⟩ := List.head?_eq_some_iff.mp h
  exact ⟨'/', rest, rfl, by decide, by decide, by decide⟩

theorem absolutePaths_system {directory : String} (h : directory.toList.head? = some '/')
    (config : OddBoxV3Config) : AbsolutePaths (system directory) config where
  homeDir path text hpath htext := by
    cases hpath
    cases htext
    exact absolute_slash rfl
  parent path found _ hfound _ := by
    cases hfound
    exact absolute_slash h
  currentDir path hpath := by
    cases hpath
    exact absolute_slash rfl
  canonicalize text path hpath := by
    change (if text = "/srv/www" then Except.ok _ else Except.error "not found") = _ at hpath
    split at hpath <;> cases hpath
    exact absolute_slash rfl

theorem resolves_iff_settled_site :
    Resolves (system "/etc") (placed (some "/srv/www")) "$root_dir/site" ↔
      Settled (system "/etc") (placed (some "/srv/www")) "$root_dir/site" :=
  resolves_iff_settled (absolutePaths_system rfl _) "$root_dir/site"

/-- Without a root the directory of a directory server is not resolved, and a tilde in the
directory of the configuration is taken for the home directory. -/
theorem variables_missed :
    ¬ Resolves (system "/etc") (placed none) "$root_dir/site" ∧
      ¬ Resolves (system "/srv/~odd") (placed (some "/srv/www")) "$cfg_dir/site" := by
  constructor
  · intro h
    have hdir := h.dirServer ⟨"$root_dir/site", "", none, none, none, none, none, none⟩ rfl
    revert hdir
    decide
  · intro h
    have hdir := h.dirServer ⟨"$cfg_dir/site", "", none, none, none, none, none, none⟩ rfl
    revert hdir
    decide

end OddBox.Configuration
