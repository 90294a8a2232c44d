import PipeLoom.Catalogue.Basic
import PipeLoom.Expression

/-!
# The builtin catalogue

The commands for each language, package manager, framework, provider, service and hook, as data.
Which values go together is said only by requirements and exclusions.
-/

namespace PipeLoom.Builtin

open Expression (embed)

/-- A call of an action with inputs. -/
def call (name action : String) (inputs : List (String × String)) : Step :=
  { Step.uses name action with action := .uses action (Dict.ofList inputs) }

/-! ## Languages -/

/-- A language whose version is kept in a variable and set up by an action. -/
def language (value name key version action input : String)
    (others : List (String × String)) : Fragment :=
  (Fragment.new .language value name).addEnv key version
    |>.addSetup (call ("Setup " ++ name) action (others ++ [(input, embed ("env." ++ key))]))

def languages : List Fragment := [
  language "nodejs" "Node.js" "NODE_VERSION" "20" "actions/setup-node@v4" "node-version" [],
  language "python" "Python" "PYTHON_VERSION" "3.12" "actions/setup-python@v5" "python-version" [],
  language "go" "Go" "GO_VERSION" "1.22" "actions/setup-go@v5" "go-version" [],
  language "java" "Java" "JAVA_VERSION" "21" "actions/setup-java@v4" "java-version"
    [("distribution", "temurin")],
  language "ruby" "Ruby" "RUBY_VERSION" "3.3" "ruby/setup-ruby@v1" "ruby-version" []]

/-! ## Package managers -/

/-- A package manager of one language with its setup steps and its three commands. -/
def packageManager (value name language : String) (setup : List Step) (lint test build : String) :
    Fragment :=
  (setup.foldl Fragment.addSetup
      ((Fragment.new .packageManager value name).addRequirement .language [language]))
    |>.addStep .lint (.run "Lint" lint)
    |>.addStep .test (.run "Test" test)
    |>.addStep .build (.run "Build" build)

/-- Why gems managed by Bundler do not run on Lambda. -/
def lambdaGems : String := "Bundler-managed native gems do not match the Lambda runtime image"

def packageManagers : List Fragment := [
  packageManager "npm" "npm" "nodejs" [.run "Install dependencies" "npm ci"]
    "npm run lint" "npm test" "npm run build",
  packageManager "yarn" "Yarn" "nodejs"
    [.run "Enable Corepack" "corepack enable",
      .run "Install dependencies" "yarn install --immutable"]
    "yarn lint" "yarn test" "yarn build",
  packageManager "pnpm" "pnpm" "nodejs"
    [.uses "Setup pnpm" "pnpm/action-setup@v4",
      .run "Install dependencies" "pnpm install --frozen-lockfile"]
    "pnpm lint" "pnpm test" "pnpm build",
  packageManager "pip" "pip" "python"
    [.run "Install dependencies"
      "python -m pip install --upgrade pip && pip install -r requirements.txt"]
    "pip install ruff && ruff check ." "python -m pytest" "pip install build && python -m build",
  (packageManager "poetry" "Poetry" "python"
    [.run "Install Poetry" "pipx install poetry",
      .run "Install dependencies" "poetry install --no-interaction"]
    "poetry run ruff check ." "poetry run pytest" "poetry build").addEnv
    "POETRY_VIRTUALENVS_CREATE" "false",
  packageManager "gomod" "Go modules" "go" [.run "Download modules" "go mod download"]
    "go vet ./..." "go test -race ./..." "go build ./...",
  packageManager "maven" "Maven" "java" []
    "mvn -B checkstyle:check" "mvn -B test" "mvn -B package -DskipTests",
  packageManager "gradle" "Gradle" "java" [.uses "Setup Gradle" "gradle/actions/setup-gradle@v3"]
    "./gradlew check -x test" "./gradlew test" "./gradlew build -x test",
  (packageManager "bundler" "Bundler" "ruby" [.run "Install gems" "bundle install --jobs 4"]
    "bundle exec rubocop" "bundle exec rspec" "bundle exec rake build").addExclusion
    .service "lambda" lambdaGems]

/-! ## Frameworks -/

/-- A framework of one language. -/
def framework (value name language : String) : Fragment :=
  (Fragment.new .framework value name).addRequirement .language [language]

def frameworks : List Fragment := [
  (framework "nextjs" "Next.js" "nodejs").addEnv "NEXT_TELEMETRY_DISABLED" "1"
    |>.addSetup (call "Cache Next.js build" "actions/cache@v4"
      [("path", ".next/cache"),
        ("key", "nextjs-" ++ embed "runner.os" ++ "-" ++
          embed "hashFiles('**/package-lock.json', '**/yarn.lock', '**/pnpm-lock.yaml')")])
    |>.addStep .lint (.run "Lint" "npx next lint")
    |>.addStep .build (.run "Build" "npx next build"),
  (framework "react" "React (Vite)" "nodejs").addStep .build (.run "Build" "npx vite build"),
  (framework "nestjs" "NestJS" "nodejs").addStep .build (.run "Build" "npx nest build"),
  (framework "django" "Django" "python").addEnv "DJANGO_SETTINGS_MODULE" "config.settings"
    |>.addStep .test
      (.run "Check migrations" "python manage.py makemigrations --check --dry-run")
    |>.addStep .test (.run "Test" "python manage.py test"),
  (framework "fastapi" "FastAPI" "python").addEnv "APP_MODULE" "app.main:app"
    |>.addStep .test (.run "Import check"
      "python -c \"import importlib; importlib.import_module('$\x7bAPP_MODULE%%:*\x7d')\""),
  (framework "gin" "Gin" "go").addEnv "CGO_ENABLED" "0"
    |>.addStep .build
      (.run "Build" "go build -trimpath -ldflags=\"-s -w\" -o bin/server ."),
  (framework "spring-boot" "Spring Boot" "java").addEnv "SPRING_PROFILES_ACTIVE" "ci",
  (framework "rails" "Ruby on Rails" "ruby").addRequirement .packageManager ["bundler"]
    |>.addEnv "RAILS_ENV" "test"
    |>.addStep .test (.run "Test" "bundle exec rails test")
    |>.addStep .build (.run "Build" "bundle exec rails assets:precompile")]

/-! ## Providers -/

/-- The step that signs in to a provider. -/
def credentials (action : String) (inputs : List (String × String)) : Step :=
  call "Configure cloud credentials" action inputs

def providers : List Fragment := [
  (Fragment.new .provider "aws" "Amazon Web Services").addEnv "AWS_REGION" "us-east-1"
    |>.addSecret "AWS_ACCESS_KEY_ID"
    |>.addSecret "AWS_SECRET_ACCESS_KEY"
    |>.addSetting "region" "us-east-1"
    |>.addStep .deploy (credentials "aws-actions/configure-aws-credentials@v4"
      [("aws-access-key-id", embed "secrets.AWS_ACCESS_KEY_ID"),
        ("aws-secret-access-key", embed "secrets.AWS_SECRET_ACCESS_KEY"),
        ("aws-region", embed "env.AWS_REGION")]),
  (Fragment.new .provider "gcp" "Google Cloud").addEnv "GCP_REGION" "us-central1"
    |>.addSecret "GCP_CREDENTIALS"
    |>.addSetting "region" "us-central1"
    |>.addStep .deploy (credentials "google-github-actions/auth@v2"
      [("credentials_json", embed "secrets.GCP_CREDENTIALS")])
    |>.addStep .deploy (.uses "Setup gcloud" "google-github-actions/setup-gcloud@v2"),
  (Fragment.new .provider "azure" "Microsoft Azure").addEnv "AZURE_LOCATION" "eastus"
    |>.addEnv "AZURE_RESOURCE_GROUP" "app-rg"
    |>.addSecret "AZURE_CREDENTIALS"
    |>.addSetting "region" "eastus"
    |>.addSetting "resource_group" "app-rg"
    |>.addStep .deploy (credentials "azure/login@v2"
      [("creds", embed "secrets.AZURE_CREDENTIALS")])]

/-! ## Services -/

/-- A service of one provider and the kind of thing deployed on it. -/
def service (value name provider target : String) : Fragment :=
  (Fragment.new .service value name).addRequirement .provider [provider]
    |>.addSetting "target" target

/-- A Kubernetes service: its cluster is kept in a variable, and a step connects to it. -/
def cluster (value name provider key : String) (connect : Step) : Fragment :=
  (service value name provider "deployment").addEnv key "default"
    |>.addSetting "cluster" "default"
    |>.addStep .deploy connect
    |>.addStep .deploy (.run "Deploy service"
      "kubectl apply -f k8s/ && kubectl rollout status deployment/\"$APP_NAME\"")

/-- An image named by the commit. -/
def image : String := "\"$REGISTRY/$APP_NAME:$GITHUB_SHA\""

def services : List Fragment := [
  (service "ecs" "Amazon ECS" "aws" "ecs-service").addEnv "ECS_CLUSTER" "default"
    |>.addSetting "cluster" "default"
    |>.addStep .deploy
      ((Step.uses "Login to container registry" "aws-actions/amazon-ecr-login@v2").withId
        "registry")
    |>.addStep .deploy
      ((Step.run "Build and push image"
        ("docker build -t " ++ image ++ " . && docker push " ++ image)).withEnv
        "REGISTRY" (embed "steps.registry.outputs.registry"))
    |>.addStep .deploy (.run "Deploy service"
      ("aws ecs update-service --cluster \"$ECS_CLUSTER\" --service \"$APP_NAME\"" ++
        " --force-new-deployment")),
  (service "lambda" "AWS Lambda" "aws" "function").addExclusion .packageManager "bundler" lambdaGems
    |>.addEnv "LAMBDA_PUBLISH" "true"
    |>.addStep .deploy (.run "Package function" "zip -qr function.zip .")
    |>.addStep .deploy (.run "Deploy service"
      ("aws lambda update-function-code --function-name \"$APP_NAME\"" ++
        " --zip-file fileb://function.zip"))
    |>.addStep .deploy
      ((Step.run "Publish version"
        "aws lambda publish-version --function-name \"$APP_NAME\"").withGuard
        "env.LAMBDA_PUBLISH == 'true'"),
  cluster "eks" "Amazon EKS" "aws" "EKS_CLUSTER"
    (.run "Configure kubectl"
      "aws eks update-kubeconfig --name \"$EKS_CLUSTER\" --region \"$AWS_REGION\""),
  (service "cloudrun" "Cloud Run" "gcp" "cloud-run-service").addStep .deploy
    (.run "Deploy service"
      "gcloud run deploy \"$APP_NAME\" --source . --region \"$GCP_REGION\" --quiet"),
  cluster "gke" "Google Kubernetes Engine" "gcp" "GKE_CLUSTER"
    (call "Configure kubectl" "google-github-actions/get-gke-credentials@v2"
      [("cluster_name", embed "env.GKE_CLUSTER"), ("location", embed "env.GCP_REGION")]),
  (service "appservice" "Azure App Service" "azure" "web-app").addStep .deploy
    (call "Deploy service" "azure/webapps-deploy@v3"
      [("app-name", embed "env.APP_NAME"), ("package", ".")]),
  cluster "aks" "Azure Kubernetes Service" "azure" "AKS_CLUSTER"
    (call "Configure kubectl" "azure/aks-set-context@v4"
      [("resource-group", embed "env.AZURE_RESOURCE_GROUP"),
        ("cluster-name", embed "env.AKS_CLUSTER")])]

/-! ## Hooks -/

def hook (value name : String) : Fragment := .new .hooks value name

def hooks : List Fragment := [
  (hook "security-scan" "Dependency security scan").addStep .preBuild
    (call "Scan dependencies" "aquasecurity/trivy-action@0.24.0"
      [("scan-type", "fs"), ("severity", "CRITICAL,HIGH"), ("exit-code", "1")]),
  (hook "hotfix" "Hotfix release workflow").describe
      "Emits a separate workflow for `v<semver>-hotfix.<n>` releases"
    |>.addStep .preDeploy
      ((Step.run "Announce hotfix" "echo \"::notice::Hotfix release $GITHUB_REF_NAME\"").withGuard
        "contains(github.ref_name, '-hotfix.')"),
  (hook "rollback" "Rollback workflow").describe
      "Emits a manually dispatched workflow that redeploys a previous tag"
    |>.addStep .postDeploy (.run "Record deployed version"
      ("echo \"Deployed $GITHUB_REF_NAME ($GITHUB_SHA)\"" ++ " >> \"$GITHUB_STEP_SUMMARY\"")),
  (hook "smoke-test" "Post-deploy smoke test").addEnv "SMOKE_TEST_URL" ""
    |>.addStep .postDeploy
      ((Step.run "Smoke test"
        "curl --fail --retry 5 --retry-delay 10 \"$SMOKE_TEST_URL\"").withGuard
        "env.SMOKE_TEST_URL != ''"),
  (hook "notify-slack" "Slack notification").addSecret "SLACK_WEBHOOK_URL"
    |>.addStep .postDeploy
      ((call "Notify Slack" "slackapi/slack-github-action@v1.27.0"
        [("payload", "\x7b\"text\": \"" ++ embed "github.repository" ++ " " ++
          embed "github.ref_name" ++ ": " ++ embed "job.status" ++ "\"\x7d")]).withGuard "always()"
        |>.withEnv "SLACK_WEBHOOK_URL" (embed "secrets.SLACK_WEBHOOK_URL")
        |>.withEnv "SLACK_WEBHOOK_TYPE" "INCOMING_WEBHOOK")]

end PipeLoom.Builtin

namespace PipeLoom.Catalogue

/-- The catalogue without overlays. -/
def builtin : Catalogue :=
  empty.registerAll (Builtin.languages ++ Builtin.packageManagers ++ Builtin.frameworks ++
    Builtin.providers ++ Builtin.services ++ Builtin.hooks)

end PipeLoom.Catalogue
