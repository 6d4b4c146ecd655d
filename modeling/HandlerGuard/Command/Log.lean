import HandlerGuard.Command.Run
import HandlerGuard.LogFilter

namespace HandlerGuard

namespace LogMessage

/-- A message on what becomes of a module. -/
def ofTransform (text : Text) : LogMessage :=
  ⟨"prerender_transform::transform".toList, .debug, "[prerender-kit] ".toList ++ text⟩

/-- The message on a handler that is put under the guard. -/
def ofHandler (callee : Text) (handler : Span) : LogMessage :=
  ⟨"prerender_transform::rewriter".toList, .trace,
    "[prerender-kit] wrapped handler of ".toList ++ callee ++ " at ".toList ++
      EditError.spanText handler⟩

def ofCommand (text : Text) : LogMessage :=
  ⟨"prerender_cli::commands::transform".toList, .debug, text⟩

end LogMessage

namespace Transformer

/-- What is logged when a module is left as it is before its calls are known. What the parser has to say
about a module that cannot be read is left out. -/
def skipLog (id : Text) : SkipReason → List LogMessage
  | .bypassed => [.ofTransform ("Development bypass active, skipping ".toList ++ id)]
  | .filtered .otherMarkup =>
      [.ofTransform ("Skipping ".toList ++ id ++ " (NonScriptMarkup)".toList)]
  | .filtered _ => [.ofTransform ("Skipping ".toList ++ id ++ " (Excluded)".toList)]
  | .parseFailed => [.ofTransform ("Could not parse ".toList ++ id)]
  | .disabled => []
  | .noCandidateText => []
  | .noMatch => []

/-- The messages on the handlers that are put under the guard. -/
def guardLog (sites : List CallSite) : List LogMessage :=
  (sites.filter CallSite.isGuardable).filterMap fun site =>
    site.handler.map (LogMessage.ofHandler site.callee)

/-- What is logged when a module has become what is given. -/
def log (t : Transformer) (id code : Text) (result : Except EditError TransformResult) :
    List LogMessage :=
  let sites := (t.scan id code).toOption.getD []
  match result with
  | .ok (.unchanged .noMatch) =>
      [.ofTransform
        ("No rewritable call in ".toList ++ id ++ " (".toList ++ Text.ofNat sites.length ++
          " found)".toList)]
  | .ok (.unchanged reason) => skipLog id reason
  | .ok (.transformed output) =>
      guardLog sites ++
        [.ofTransform
          ("Transformed ".toList ++ id ++ " (".toList ++ Text.ofNat output.guarded ++
            " handlers guarded, ".toList ++ Text.ofNat code.byteLength ++ " → ".toList ++
            Text.ofNat output.code.byteLength ++ " bytes)".toList)]
  | .error _ => guardLog sites

end Transformer

namespace Command

/-- What is logged when a result is written or printed. -/
def deliveryLog (options : TransformOptions) (p : Progress) : TransformResult → List LogMessage
  | .unchanged _ => []
  | .transformed output =>
      match deliver options (.transformed output) p with
      | (_, .ok ()) =>
          options.map.toList.map fun path => .ofCommand ("Wrote source map ".toList ++ path)
      | (_, .error _) => []

/-- What is logged when a file is transformed. -/
def transformLog (options : TransformOptions) (transformer : Transformer) (p : Progress) :
    List LogMessage :=
  match Action.readText options.file p with
  | (_, .error _) => []
  | (p, .ok code) =>
      let id := options.id.getD options.file
      let result := transformer.transform id code
      [.ofCommand ("Transforming ".toList ++ options.file ++ " as ".toList ++ id)] ++
        transformer.log id code result ++ result.toOption.elim [] (deliveryLog options p)

/-- What is logged when the calls in files are listed. -/
def scanLog (transformer : Transformer) (id : Option Text) (p : Progress) :
    List Text → List LogMessage
  | [] => []
  | file :: rest =>
      match Action.readText file p with
      | (_, .error _) => []
      | (_, .ok code) =>
          match transformer.scan (id.getD file) code with
          | .error reason =>
              Transformer.skipLog (id.getD file) reason ++ scanLog transformer id p rest
          | .ok sites =>
              match printCalls file (LineIndex.ofText code) sites p with
              | (_, .ok ()) => scanLog transformer id p rest
              | (_, .error _) => []

end Command

def Invocation.log (invocation : Invocation) (environment : Environment) (p : Progress) :
    List LogMessage :=
  let load (mode : BuildMode) : Option Transformer :=
    (Action.loadTransformer environment invocation.options.config mode p).2.toOption
  match invocation.command with
  | .transform options =>
      (load (if options.dev then .development else .production)).elim []
        (Command.transformLog options · p)
  | .scan options =>
      if options.id.isSome && 1 < options.files.length then []
      else (load .production).elim [] (Command.scanLog · options.id p options.files)
  | .check _ => []

end HandlerGuard
