/-! The help text of the command. -/

namespace AccessPolicy.CommandLine

/-- What the command is for. -/
def helpOverview : List String := [
  "Usage: iam-policy-eval [OPTIONS]",
  "",
  "  iam-policy-eval: Offline evaluator for AWS IAM policy documents.",
  ""]

/-- The options with their meanings. -/
def helpOptions : List String := [
  "Options:",
  "  -p, --policy FILE               Path to the policy document (JSON)",
  "  -a, --action TEXT               Action to evaluate, e.g. s3:GetObject",
  "  -r, --resource TEXT             Resource ARN to evaluate",
  "  --principal-aws TEXT            Calling AWS principal (ARN or account ID)",
  "  --principal-canonical-user TEXT",
  "                                  Calling canonical user ID",
  "  --principal-federated TEXT      Calling federated identity provider",
  "  --principal-service TEXT        Calling service principal, e.g.",
  "                                  ec2.amazonaws.com",
  "  -c, --context KEY=VALUE         Request context key (repeatable; repeating a",
  "                                  key adds a value)",
  "  --context-file FILE             JSON file with global and per-resource context",
  "                                  keys",
  "  --config FILE                   Path to config.json (default: OS config",
  "                                  location)",
  "  --log-level [debug|info|warning]",
  "                                  Override the configured log level",
  "  -v, --version                   Show version",
  "  -h, --help                      Show this message and exit.",
  ""]

/-- Ways to use the command. -/
def helpExamples : List String := [
  "Examples:",
  "  iam-policy-eval --policy policy.json",
  "",
  "  iam-policy-eval --policy policy.json \\",
  "    --action s3:GetObject \\",
  "    --resource arn:aws:s3:::my-bucket/report.csv",
  "",
  "  iam-policy-eval --policy bucket-policy.json \\",
  "    --action s3:PutObject \\",
  "    --resource arn:aws:s3:::my-bucket/upload \\",
  "    --principal-aws arn:aws:iam::123456789012:user/alice \\",
  "    --context aws:SecureTransport=true \\",
  "    --context-file context.json",
  ""]

/-- What a context file looks like. -/
def helpContext : List String := [
  "Context file format:",
  "  \x7b\"global\": \x7b\"aws:SourceIp\": \"10.0.0.1\"\x7d,",
  "   \"resources\": \x7b\"arn:aws:s3:::my-bucket/upload\": "
    ++ "\x7b\"s3:x-amz-acl\": \"private\"\x7d\x7d\x7d"]

/-- The whole help text. -/
def helpText : String :=
  -- Every line ends with a line feed.
  String.join ((helpOverview ++ helpOptions ++ helpExamples ++ helpContext).map fun line =>
    line ++ "\n")

end AccessPolicy.CommandLine
