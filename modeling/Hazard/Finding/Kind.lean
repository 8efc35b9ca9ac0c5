import Hazard.Finding.Severity

/-!
The kinds of findings, what they mean, and how severe they are by default.
-/

namespace Hazard

/-- What a finding is about. -/
inductive Kind where
  | genericVariableName
  | inconsistentNaming
  | emptyCatchBlock
  | swallowedError
  | missingErrorBoundary
  | genericErrorMessage
  | tryWithoutCatch
  | hardcodedSecret
  | sqlConcatenation
  | unsafeEval
  | insecureRandom
  | missingInputValidation
  | copyPastePattern
  | magicNumber
  | todoWithoutContext
  | commentedOutCode
  | overlyComplexFunction
  | placeholderImplementation
  | incompleteEdgeCase
  | mockDataInProduction
  | frameworkVersionMismatch
  | unnecessaryAbstraction
  | contextMismatch
deriving DecidableEq, Repr

namespace Kind

/-- The kinds, in the order in which they are listed. -/
def all : List Kind :=
  [.genericVariableName, .inconsistentNaming, .emptyCatchBlock, .swallowedError,
    .missingErrorBoundary, .genericErrorMessage, .tryWithoutCatch, .hardcodedSecret,
    .sqlConcatenation, .unsafeEval, .insecureRandom, .missingInputValidation, .copyPastePattern,
    .magicNumber, .todoWithoutContext, .commentedOutCode, .overlyComplexFunction,
    .placeholderImplementation, .incompleteEdgeCase, .mockDataInProduction,
    .frameworkVersionMismatch, .unnecessaryAbstraction, .contextMismatch]

/-- The name of a kind. -/
def name : Kind → String
  | .genericVariableName => "generic_variable_name"
  | .inconsistentNaming => "inconsistent_naming"
  | .emptyCatchBlock => "empty_catch_block"
  | .swallowedError => "swallowed_error"
  | .missingErrorBoundary => "missing_error_boundary"
  | .genericErrorMessage => "generic_error_message"
  | .tryWithoutCatch => "try_without_catch"
  | .hardcodedSecret => "hardcoded_secret"
  | .sqlConcatenation => "sql_concatenation"
  | .unsafeEval => "unsafe_eval"
  | .insecureRandom => "insecure_random"
  | .missingInputValidation => "missing_input_validation"
  | .copyPastePattern => "copy_paste_pattern"
  | .magicNumber => "magic_number"
  | .todoWithoutContext => "todo_without_context"
  | .commentedOutCode => "commented_out_code"
  | .overlyComplexFunction => "overly_complex_function"
  | .placeholderImplementation => "placeholder_implementation"
  | .incompleteEdgeCase => "incomplete_edge_case"
  | .mockDataInProduction => "mock_data_in_production"
  | .frameworkVersionMismatch => "framework_version_mismatch"
  | .unnecessaryAbstraction => "unnecessary_abstraction"
  | .contextMismatch => "context_mismatch"

/-- The kind of a name. -/
def ofName? (text : String) : Option Kind := all.find? (·.name == text)

/-- What a kind means. -/
def description : Kind → String
  | .genericVariableName => "Variable has a generic, non-descriptive name"
  | .inconsistentNaming => "Naming convention inconsistent within scope"
  | .emptyCatchBlock => "Catch block is empty or only has comments"
  | .swallowedError => "Error is caught but not logged or rethrown"
  | .missingErrorBoundary => "Async code without try-catch or .catch()"
  | .genericErrorMessage => "Error message provides no debugging context"
  | .tryWithoutCatch => "try...finally without catch clause"
  | .hardcodedSecret => "Potential secret/API key hardcoded in source"
  | .sqlConcatenation => "SQL query built with string concatenation"
  | .unsafeEval => "Use of eval() or equivalent"
  | .insecureRandom => "Math.random() used for security purposes"
  | .missingInputValidation => "User input used without validation"
  | .copyPastePattern => "Duplicated code blocks detected"
  | .magicNumber => "Numeric literal without explanation"
  | .todoWithoutContext => "TODO/FIXME comment lacks detail"
  | .commentedOutCode => "Large block of commented-out code"
  | .overlyComplexFunction => "Function has high cyclomatic complexity"
  | .placeholderImplementation => "Function body is TODO/pass/NotImplemented"
  | .incompleteEdgeCase => "Missing null check or boundary condition"
  | .mockDataInProduction => "Hardcoded test/mock data in production code"
  | .frameworkVersionMismatch => "Using deprecated API or old syntax"
  | .unnecessaryAbstraction => "Over-engineered solution for simple problem"
  | .contextMismatch => "Code style inconsistent with project"

/-- How severe a kind is by default. -/
def defaultSeverity : Kind → Severity
  | .genericVariableName => .warning
  | .inconsistentNaming => .info
  | .emptyCatchBlock => .critical
  | .swallowedError => .warning
  | .missingErrorBoundary => .warning
  | .genericErrorMessage => .info
  | .tryWithoutCatch => .info
  | .hardcodedSecret => .critical
  | .sqlConcatenation => .critical
  | .unsafeEval => .critical
  | .insecureRandom => .warning
  | .missingInputValidation => .warning
  | .copyPastePattern => .warning
  | .magicNumber => .info
  | .todoWithoutContext => .info
  | .commentedOutCode => .info
  | .overlyComplexFunction => .warning
  | .placeholderImplementation => .critical
  | .incompleteEdgeCase => .warning
  | .mockDataInProduction => .critical
  | .frameworkVersionMismatch => .warning
  | .unnecessaryAbstraction => .info
  | .contextMismatch => .warning

end Kind

end Hazard
