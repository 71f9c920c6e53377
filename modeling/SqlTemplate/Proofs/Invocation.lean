import SqlTemplate.Invocation
import SqlTemplate.Proofs.Object.Signature
/-!
# What an invocation holds

A call of a function is bound as the function's signature binds it (`bind_of_ok`, `bind_of_error`), unless a keyword has
a name of the operation itself (`bindCall_of_clashes`). An invocation that comes of this has an argument for each
parameter (`mem_names_of_bindCall`), so that looking one up fails only for a name that is no parameter.
-/

namespace SqlTemplate

/-- A keyword has one of the names that an operation has for parameters of its own. -/
def Arguments.ClashesWith (own : List String) (keywords : Arguments) : Prop :=
  ∃ name ∈ own, hasName name keywords = true

namespace Method

theorem parameterNames_ofSignature (name : String) (signature : Signature) :
    (ofSignature name signature).parameterNames = signature.parameters.map (·.name) := by
  rw [parameterNames, ofSignature, List.map_map]
  rfl

theorem hasParameter_eq_true_iff {method : Method} {name : String} :
    method.hasParameter name = true ↔ name ∈ method.parameterNames := by
  simp [hasParameter, parameterNames]

end Method

namespace Invocation

variable {name : String} {signature : Signature} {method : Method} {positional : List Value}
  {keywords arguments : Arguments} {invocation : Invocation}

/-! ## Binding -/

theorem bind_of_error {fault : BindFault} (h : signature.bind positional keywords = .error fault) :
    bind (.ofSignature name signature) positional keywords = .error (.misfit fault) := by
  rw [bind, Method.ofSignature]
  simp only [h]

theorem bind_of_ok (h : signature.bind positional keywords = .ok arguments) :
    bind (.ofSignature name signature) positional keywords
      = .ok (ofArguments (.ofSignature name signature) arguments) := by
  rw [bind, Method.ofSignature]
  simp only [h]

/-- The arguments that a signature binds have different names, and are kept as they are. -/
theorem ofArguments_of_bind (hnames : (signature.parameters.map (·.name)).Nodup)
    (h : signature.bind positional keywords = .ok arguments) :
    ofArguments method arguments = ⟨method, arguments⟩ := by
  have hdistinct : (arguments.map (·.1)).Nodup := by
    rw [Signature.map_fst_of_bind h]
    exact hnames
  rw [ofArguments, namedOfList_eq_self hdistinct]

theorem bindCall_of_clashes (method : Method) (positional : List Value)
    (h : keywords.ClashesWith ["method", "cls"]) :
    ∃ own ∈ ["method", "cls"], hasName own keywords = true ∧
      bindCall method positional keywords = .error (.reserved "InvocationContext.bind" own) := by
  cases hfind : keywords.find? fun argument => argument.1 = "method" || argument.1 = "cls" with
  | none =>
    obtain ⟨own, hown, hname⟩ := h
    obtain ⟨argument, hargument, rfl⟩ := List.mem_map.mp (hasName_eq_true_iff.mp hname)
    have hother := List.find?_eq_none.mp hfind argument hargument
    exact absurd (by simpa using hown) hother
  | some argument =>
    have hown := List.find?_some hfind
    have hmem := List.mem_of_find?_eq_some hfind
    refine ⟨argument.1, by simpa using hown, hasName_eq_true_iff.mpr (List.mem_map_of_mem hmem), ?_⟩
    rw [bindCall, hfind]

theorem bindCall_of_not_clashes (h : ¬ keywords.ClashesWith ["method", "cls"]) :
    bindCall method positional keywords = bind method positional keywords := by
  have hfind : (keywords.find? fun argument => argument.1 = "method" || argument.1 = "cls") = none := by
    rw [List.find?_eq_none]
    intro argument hargument hown
    exact h ⟨argument.1, by simpa using hown, hasName_eq_true_iff.mpr (List.mem_map_of_mem hargument)⟩
  rw [bindCall, hfind]

/-- What a call is bound to is what the signature binds it to. -/
theorem exists_bind_of_bindCall
    (h : bindCall (.ofSignature name signature) positional keywords = .ok invocation) :
    ∃ arguments, signature.bind positional keywords = .ok arguments ∧
      invocation = ofArguments (.ofSignature name signature) arguments := by
  by_cases hclash : keywords.ClashesWith ["method", "cls"]
  · obtain ⟨own, -, -, herror⟩ := bindCall_of_clashes (.ofSignature name signature) positional hclash
    rw [herror] at h
    cases h
  · rw [bindCall_of_not_clashes hclash] at h
    cases hbind : signature.bind positional keywords with
    | error fault =>
      rw [bind_of_error hbind] at h
      cases h
    | ok arguments =>
      rw [bind_of_ok hbind] at h
      cases h
      exact ⟨arguments, rfl, rfl⟩

/-! ## Arguments -/

theorem method_of_bindCall (h : bindCall (.ofSignature name signature) positional keywords = .ok invocation) :
    invocation.method = .ofSignature name signature := by
  obtain ⟨arguments, -, rfl⟩ := exists_bind_of_bindCall h
  rfl

/-- A call that is bound has an argument for each parameter. -/
theorem mem_names_of_bindCall (h : bindCall (.ofSignature name signature) positional keywords = .ok invocation)
    {parameter : String} (hparameter : (Method.ofSignature name signature).hasParameter parameter = true) :
    parameter ∈ invocation.arguments.map (·.1) := by
  obtain ⟨arguments, hbind, rfl⟩ := exists_bind_of_bindCall h
  rw [Method.hasParameter_eq_true_iff, Method.parameterNames_ofSignature, ← Signature.map_fst_of_bind hbind]
    at hparameter
  exact mem_namedOfList hparameter

theorem exists_argument_of_mem (hparameter : invocation.method.hasParameter name = true)
    (hmem : name ∈ invocation.arguments.map (·.1)) (path : String) :
    ∃ value, invocation.argument name path = .ok value := by
  obtain ⟨value, hvalue⟩ := exists_lookup_of_mem hmem
  refine ⟨value, ?_⟩
  rw [argument, hvalue]
  exact if_pos hparameter

theorem argument_of_unknown (hparameter : invocation.method.hasParameter name = false) (path : String) :
    invocation.argument name path = .error (.unknownParameter name path invocation.method.parameterNames) := by
  rw [argument, hparameter]
  cases invocation.arguments.lookup name <;> rfl

end Invocation

end SqlTemplate
